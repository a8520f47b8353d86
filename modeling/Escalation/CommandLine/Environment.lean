import Escalation.Text.Search

/-!
# Files of variables

The variables of a `.env` file: a line each, with a name, an equals sign and a value. Single quotes
keep a value as it is; elsewhere a backslash escapes a character and a dollar sign is followed by the
name of a variable. Reading ends at the first line that is none of this.
-/

namespace Escalation.CommandLine

/-- Variables with their values, the last one of a name counting. -/
abbrev Variables := List (String × String)

namespace Variables

def find? (vs : Variables) (name : String) : Option String :=
  (vs.reverse.find? (·.1 == name)).map (·.2)

/-- What kind of text a character of a value stands in. -/
inductive Place where
  | bare
  | single
  | double
  | ended
deriving DecidableEq, Repr

/-- The characters that may follow a backslash, and what they then are. -/
def escaped? (c : Char) : Option Char :=
  if c == '\\' || c == '\'' || c == '"' || c == '$' || c == ' ' then some c
  else if c == 'n' then some '\n'
  else none

/-- The name of a variable after a dollar sign, which may stand in braces. -/
def named? : List Char → Option (String × List Char)
  | '\x7b' :: rest =>
    match rest.dropWhile (· != '\x7d') with
    | _ :: after => some (String.ofList (rest.takeWhile (· != '\x7d')), after)
    | [] => none
  | rest =>
    some (String.ofList (rest.takeWhile Char.isAlphanum), rest.dropWhile Char.isAlphanum)

/-- The characters of a value, behind those read, the last one first. A value that has blanks in
it needs quotes, and one that opens quotes must close them. -/
def value? (look : String → String) : (fuel : Nat) → Place → (read : List Char) → List Char →
    Option String
  | 0, _, _, _ => none
  | _ + 1, place, read, [] =>
    if place = .single || place = .double then none else some (String.ofList read.reverse)
  | fuel + 1, place, read, c :: rest =>
    let add (c : Char) := value? look fuel place (c :: read) rest
    match place with
    | .ended =>
      if c == ' ' || c == '\t' then value? look fuel .ended read rest
      else if c == '#' then some (String.ofList read.reverse)
      else none
    | .single => if c == '\'' then value? look fuel .bare read rest else add c
    | place =>
      if c == '$' then
        (named? rest).bind fun (name, after) =>
          value? look fuel place ((look name).toList.reverse ++ read) after
      else if c == '\\' then
        match rest with
        | e :: after => (escaped? e).bind fun e => value? look fuel place (e :: read) after
        | [] => if place = .double then none else some (String.ofList read.reverse)
      else if c == '"' then
        value? look fuel (if place = .double then .bare else .double) read rest
      else if place = .double then add c
      else if c == '\'' then value? look fuel .single read rest
      else if c == ' ' || c == '\t' then value? look fuel .ended read rest
      else add c

/-- The name at the start of a line, a word `export` before it being passed over. -/
def name? (cs : List Char) : Option (String × List Char) :=
  let isStart (c : Char) := c.isAlpha || c == '_'
  let isPart (c : Char) := c.isAlphanum || c == '_' || c == '.'
  let word (cs : List Char) : Option (String × List Char) :=
    if cs.head?.any isStart then some (String.ofList (cs.takeWhile isPart), cs.dropWhile isPart)
    else none
  (word cs).bind fun (name, rest) =>
    if name == "export" && (Text.trimStart rest).head? != some '=' then word (Text.trimStart rest)
    else some (name, rest)

/-- The variable of a line; none if it is blank or a comment. -/
def line? (look : String → String) (line : List Char) : Option (Option (String × String)) :=
  match Text.trimChars line with
  | [] | '#' :: _ => some none
  | cs => do
    let (name, rest) ← name? cs
    match Text.trimStart rest with
    | '=' :: rest =>
      let rest := Text.trimStart rest
      let value ←
        if rest.head? == some '#' then some "" else value? look (rest.length + 1) .bare [] rest
      some (some (name, value))
    | _ => none

/-- The environment with the variables of lines. What is set already stays, be it by a line
before. A value may refer to variables of the environment and of the lines before. -/
def addLines (vs : Variables) (written : Variables) : List (List Char) → Variables
  | [] => vs
  | line :: lines =>
    let look (name : String) := (vs.find? name <|> written.find? name).getD ""
    match line? look line with
    | none => vs
    | some none => addLines vs written lines
    | some (some (name, value)) =>
      let vs := if (vs.find? name).isSome then vs else vs ++ [(name, value)]
      addLines vs (written ++ [(name, value)]) lines

def addFile (vs : Variables) (content : String) : Variables :=
  addLines vs [] (Text.piecesBetween '\n' content.toList)

end Variables

end Escalation.CommandLine
