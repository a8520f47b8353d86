import Escalation.Number.Reader
import Escalation.Pattern
import Escalation.Text.Search

/-!
# Reading patterns

`Pattern.read?` reads the text of a pattern, or refuses it: a group or class that is not closed, a
repetition of nothing or with its bounds in the wrong order, an escape, flag, property or group
name that there is none of, a group name given twice, a look to either side, a reference back.

Flags are in force from where they stand to the end of the group; they are resolved while the
pattern is read, so a `Pattern` has none. Without the flag `u`, classes are those of the first 128
characters, and what would match part of a character is refused.

Two limits of compilers are left out, so patterns are read here that a compiler with these limits
refuses: that the compiled pattern take no more than 10 MiB, which excludes `a{1000000}` and
`\w{1,255}`, and that groups, classes and repetitions be nested no more than 250 deep. The theorems
on rejected and on stored patterns hold of any compiler, whatever it refuses.
-/

namespace Escalation.Pattern

/-- The flags in force. A group gives them back to what stands behind it. -/
structure Flags where
  ignoreCase : Bool := false
  multiLine : Bool := false
  dotAll : Bool := false
  anyLineEnd : Bool := false
  unicode : Bool := true
  /-- Blanks and comments in the pattern are skipped. -/
  extended : Bool := false

/-- What is left to read, the flags in force and the group names used so far. -/
structure Reading where
  rest : List Char
  flags : Flags
  names : List String

/-- A step that reads a part of the pattern or refuses it. -/
abbrev Read := StateT Reading Option

/-! ## Characters -/

def skipComments : (inComment : Bool) → List Char → List Char
  | _, [] => []
  | true, c :: cs => skipComments (c != '\n') cs
  | false, c :: cs =>
    if Text.isBlank c then skipComments false cs
    else if c == '#' then skipComments true cs
    else c :: cs

def skipIf (extended : Bool) (cs : List Char) : List Char :=
  if extended then skipComments false cs else cs

/-- The characters that have the property, and those after them; what the extended syntax skips
may stand between them. -/
def spanSpaced (extended : Bool) (p : Char → Bool) : (fuel : Nat) → List Char →
    List Char × List Char
  | 0, cs => ([], cs)
  | _ + 1, [] => ([], [])
  | fuel + 1, c :: cs =>
    if p c then
      let (taken, rest) := spanSpaced extended p fuel (skipIf extended cs)
      (c :: taken, rest)
    else ([], c :: cs)

def next? : Read (Option Char) := do
  return (← get).rest.head?

def next : Read Char := do
  match ← next? with
  | some c => return c
  | none => failure

def bump : Read Unit :=
  modify fun r => { r with rest := r.rest.drop 1 }

def skip : Read Unit :=
  modify fun r => { r with rest := skipIf r.flags.extended r.rest }

def bumpSkip : Read Unit := do
  bump
  skip

def takeSpaced (p : Char → Bool) : Read (List Char) :=
  modifyGet fun r =>
    let (taken, rest) := spanSpaced r.flags.extended p r.rest.length r.rest
    (taken, { r with rest })

def accept (cs : List Char) : Read Bool :=
  modifyGet fun r =>
    if cs.isPrefixOf r.rest then (true, { r with rest := r.rest.drop cs.length }) else (false, r)

def require (condition : Bool) : Read Unit :=
  if condition then pure () else failure

/-! ## Sets -/

/-- A set with the variants in case of its members, if case is ignored. -/
def Flags.fold (f : Flags) (set : CharSet) : CharSet :=
  if f.ignoreCase then (if f.unicode then .folded set else .foldedAscii set) else set

def negateIf (negated : Bool) (set : CharSet) : CharSet :=
  if negated then set.compl else set

/-- Refuses a set with characters of several bytes where characters are bytes. -/
def requireWhole (f : Flags) (set : CharSet) : Read Unit :=
  require (f.unicode || !set.contains '\u0080')

def Flags.digit (f : Flags) : CharSet := if f.unicode then .digit else .asciiDigit
def Flags.space (f : Flags) : CharSet := if f.unicode then .space else .asciiSpace
def Flags.word (f : Flags) : CharSet := if f.unicode then .word else .asciiWord

def asciiClass? (name : String) : Option CharSet :=
  match name with
  | "alnum" => some (.ranges [('0', '9'), ('A', 'Z'), ('a', 'z')])
  | "alpha" => some (.ranges [('A', 'Z'), ('a', 'z')])
  | "ascii" => some (.range '\u0000' '\u007F')
  | "blank" => some (.ranges [('\t', '\t'), (' ', ' ')])
  | "cntrl" => some (.ranges [('\u0000', '\u001F'), ('\u007F', '\u007F')])
  | "digit" => some .asciiDigit
  | "graph" => some (.range '!' '~')
  | "lower" => some (.range 'a' 'z')
  | "print" => some (.range ' ' '~')
  | "punct" => some (.ranges [('!', '/'), (':', '@'), ('[', Char.ofNat 96), ('\x7b', '~')])
  | "space" => some .asciiSpace
  | "upper" => some (.range 'A' 'Z')
  | "word" => some .asciiWord
  | "xdigit" => some (.ranges [('0', '9'), ('A', 'F'), ('a', 'f')])
  | _ => none

/-! ## Properties -/

/-- A property name in lower case, without blanks, dashes, underscores and a leading `is`. -/
def normalizeName (cs : List Char) : String :=
  let kept := (cs.map Char.toLower).filter fun c =>
    c.toNat < 128 && c != ' ' && c != '_' && c != '-'
  match cs.map Char.toLower with
  | 'i' :: 's' :: _ =>
    let bare := kept.drop 2
    String.ofList (if bare == ['c'] then kept else bare)
  | _ => String.ofList kept

def categorySet? (name : String) : Option CharSet :=
  match name with
  | "any" => some (.property .any)
  | "assigned" => some (.property .assigned)
  | "ascii" => some (.property .ascii)
  | _ => (Text.Category.ofName? name).map CharSet.categories

def scriptSet? (name : String) : Option CharSet :=
  if Text.Script.isName name then some (.property (.script name)) else none

def binarySet? (name : String) : Option CharSet :=
  match name with
  | "alpha" | "alphabetic" => some (.property .alphabetic)
  | "upper" | "uppercase" => some (.property .uppercase)
  | "lower" | "lowercase" => some (.property .lowercase)
  | "cased" => some (.property .cased)
  | "ci" | "caseignorable" => some (.property .caseIgnorable)
  | "space" | "wspace" | "whitespace" => some (.property .whiteSpace)
  | _ => none

def namedSet? (name : String) : Option CharSet :=
  binarySet? name <|> categorySet? name <|> scriptSet? name

def valueSet? (property value : String) : Option CharSet :=
  match property with
  | "gc" | "generalcategory" => categorySet? value
  | "sc" | "script" | "scx" | "scriptextensions" => scriptSet? value
  | _ => none

/-- The parts before and after the first occurrence of a mark of two characters. -/
def cutAtPair (a b : Char) : List Char → Option (List Char × List Char)
  | c :: d :: cs =>
    if c == a && d == b then some ([], cs)
    else (cutAtPair a b (d :: cs)).map fun (before, after) => (c :: before, after)
  | _ => none

def propertySet? (cs : List Char) : Option CharSet :=
  match cutAtPair '!' '=' cs with
  | some (property, value) =>
    (valueSet? (normalizeName property) (normalizeName value)).map CharSet.compl
  | none =>
    match Text.cutAt ':' cs <|> Text.cutAt '=' cs with
    | some (property, value) => valueSet? (normalizeName property) (normalizeName value)
    | none => namedSet? (normalizeName cs)

/-! ## Escapes -/

/-- A part of a pattern that is no group, class or repetition. -/
inductive Primitive where
  | literal (c : Char)
  | set (set : CharSet)
  | assertion (assertion : Assertion)

def isMeta (c : Char) : Bool :=
  "\\.+*?()|[]^$#&-~".toList.contains c || c == '\x7b' || c == '\x7d'

/-- Whether a backslash before the character stands for the character itself. -/
def isEscapable (c : Char) : Bool :=
  isMeta c || (c.toNat < 128 && !c.isAlphanum && c != '<' && c != '>')

def hexValue? (cs : List Char) : Option Nat :=
  cs.foldlM (fun n c =>
    if c.isDigit then some (16 * n + (c.toNat - '0'.toNat))
    else if 'a' ≤ c.toLower && c.toLower ≤ 'f' then
      some (16 * n + (c.toLower.toNat - 'a'.toNat + 10))
    else none) 0

def charOf? (n : Nat) : Option Char :=
  if n.isValidChar then some (Char.ofNat n) else none

def hexDigits : (count : Nat) → Read (List Char)
  | 0 => return []
  | count + 1 => do
    let c ← next
    if count == 0 then bump else bumpSkip
    return c :: (← hexDigits count)

/-- The character of a hexadecimal escape of so many digits, or of any number between braces. -/
def hexEscape (digits : Nat) : Read Char := do
  bumpSkip
  if (← next) == '\x7b' then
    bumpSkip
    let ds ← takeSpaced (· != '\x7d')
    discard next
    bumpSkip
    require (!ds.isEmpty)
    let n ← hexValue? ds
    charOf? n
  else
    let ds ← hexDigits digits
    skip
    let n ← hexValue? ds
    let c ← charOf? n
    require ((← get).flags.unicode || digits != 2 || n < 128)
    return c

def propertyEscape (negated : Bool) : Read CharSet := do
  let flags := (← get).flags
  require flags.unicode
  bumpSkip
  let c ← next
  let set ←
    if c == '\x7b' then do
      bumpSkip
      let name ← takeSpaced (· != '\x7d')
      discard next
      bump
      propertySet? name
    else do
      require (c != '\\')
      bumpSkip
      namedSet? (normalizeName [c])
  return negateIf negated (flags.fold set)

/-- The word in braces after `\b`, if there is one. Braces with anything but a letter or a dash
after them are a repetition. -/
def boundaryName : Read (Option String) := do
  if (← next?) != some '\x7b' then return none
  let start ← get
  bumpSkip
  let isNameChar (c : Char) : Bool := c.isAlpha || c == '-'
  if !isNameChar (← next) then
    set start
    return none
  let name ← takeSpaced isNameChar
  require ((← next) == '\x7d')
  bump
  return some (String.ofList name)

/-- What a backslash and the characters after it stand for. -/
def escape : Read Primitive := do
  bump
  let c ← next
  let flags := (← get).flags
  match c with
  | 'x' => return .literal (← hexEscape 2)
  | 'u' => return .literal (← hexEscape 4)
  | 'U' => return .literal (← hexEscape 8)
  | 'p' => return .set (← propertyEscape false)
  | 'P' => return .set (← propertyEscape true)
  | _ =>
    bump
    if isEscapable c then return .literal c
    match c with
    | 'd' => return .set flags.digit
    | 'D' => return .set flags.digit.compl
    | 's' => return .set flags.space
    | 'S' => return .set flags.space.compl
    | 'w' => return .set flags.word
    | 'W' => return .set flags.word.compl
    | 'a' => return .literal (Char.ofNat 7)
    | 'f' => return .literal (Char.ofNat 12)
    | 't' => return .literal '\t'
    | 'n' => return .literal '\n'
    | 'r' => return .literal '\r'
    | 'v' => return .literal (Char.ofNat 11)
    | 'A' => return .assertion .textStart
    | 'z' => return .assertion .textEnd
    | 'B' => return .assertion (.notWordBoundary flags.word)
    | '<' => return .assertion (.wordStart flags.word)
    | '>' => return .assertion (.wordEnd flags.word)
    | 'b' =>
      match ← boundaryName with
      | none => return .assertion (.wordBoundary flags.word)
      | some "start" => return .assertion (.wordStart flags.word)
      | some "end" => return .assertion (.wordEnd flags.word)
      | some "start-half" => return .assertion (.wordStartHalf flags.word)
      | some "end-half" => return .assertion (.wordEndHalf flags.word)
      | some _ => failure
    | _ => failure

/-! ## Classes -/

inductive SetOperation where
  | intersection
  | difference
  | symmetricDifference

/-- The set to the left of an operation that waits for the set to its right. -/
abbrev Pending := Option (SetOperation × CharSet)

/-- A pending operation with its right side; both sides ignore case if the flag says so. -/
def Flags.combine (f : Flags) (pending : Pending) (right : CharSet) : CharSet :=
  match pending with
  | none => right
  | some (.intersection, left) => (f.fold left).inter (f.fold right)
  | some (.difference, left) => (f.fold left).diff (f.fold right)
  | some (.symmetricDifference, left) => (f.fold left).symmDiff (f.fold right)

/-- A class between colons, such as `[:alpha:]`. -/
def colonClass? (cs : List Char) : Option (Bool × CharSet × List Char) :=
  match cs with
  | '[' :: ':' :: rest =>
    let (negated, rest) :=
      match rest with
      | '^' :: more => (true, more)
      | _ => (false, rest)
    match Text.cutAt ':' rest with
    | some (name, ']' :: rest) =>
      (asciiClass? (String.ofList name)).map fun set => (negated, set, rest)
    | _ => none
  | _ => none

def classItem : Read Primitive := do
  let c ← next
  if c == '\\' then escape
  else
    bump
    return .literal c

def rangeEnd (p : Primitive) : Read Char := do
  match p with
  | .literal c =>
    require ((← get).flags.unicode || c.toNat < 128)
    return c
  | _ => failure

/-- A character, an escape or a range in a class. A dash before the closing bracket or before
another dash is none of a range. -/
def classRange : Read CharSet := do
  let first ← classItem
  skip
  discard next
  let r ← get
  let afterDash := (skipIf r.flags.extended (r.rest.drop 1)).head?
  if r.rest.head? != some '-' || afterDash == some ']' || afterDash == some '-' then
    match first with
    | .literal _ => return .single (← rangeEnd first)
    | .set set => return set
    | .assertion _ => failure
  else
    bumpSkip
    let last ← classItem
    let first ← rangeEnd first
    let last ← rangeEnd last
    require (first ≤ last)
    return .range first last

def leadingDashes : (fuel : Nat) → CharSet → Read CharSet
  | 0, set => return set
  | fuel + 1, set => do
    if (← next) == '-' then
      bumpSkip
      leadingDashes fuel (set.union (.single '-'))
    else return set

/-- The opening of a class: whether it is negated, and the dashes or the bracket that stand for
themselves because they come first. -/
def classOpening : Read (Bool × CharSet) := do
  bumpSkip
  let negated := (← next) == '^'
  if negated then bumpSkip
  let dashes ← leadingDashes ((← get).rest.length) .none
  if dashes = .none && (← next) == ']' then
    bumpSkip
    discard next
    return (negated, .single ']')
  return (negated, dashes)

mutual
/-- A class from its opening bracket to its closing one. Classes may stand in classes. -/
def bracketed : (fuel : Nat) → Read CharSet
  | 0 => failure
  | fuel + 1 => do
    let flags := (← get).flags
    let (negated, set) ← classOpening
    let set ← classItems fuel none set
    return negateIf negated (flags.fold set)
def classItems : (fuel : Nat) → Pending → CharSet → Read CharSet
  | 0, _, _ => failure
  | fuel + 1, pending, current => do
    skip
    let flags := (← get).flags
    let c ← next
    if c == '[' then
      match colonClass? (← get).rest with
      | some (negated, set, rest) =>
        modify fun r => { r with rest }
        classItems fuel pending (current.union (negateIf negated (flags.fold set)))
      | none =>
        let inner ← bracketed fuel
        classItems fuel pending (current.union inner)
    else if c == ']' then
      bump
      return flags.combine pending current
    else if ← accept ['&', '&'] then
      classItems fuel (some (.intersection, flags.combine pending current)) .none
    else if ← accept ['-', '-'] then
      classItems fuel (some (.difference, flags.combine pending current)) .none
    else if ← accept ['~', '~'] then
      classItems fuel (some (.symmetricDifference, flags.combine pending current)) .none
    else
      let set ← classRange
      classItems fuel pending (current.union set)
end

/-! ## Repetitions -/

def greatestBound : Nat := Nat.pow 2 32 - 1

/-- A decimal number with blanks around it, if there is one. -/
def bound : Read (Option Nat) := do
  modify fun r => { r with rest := Text.trimStart r.rest }
  let ds ← takeSpaced Char.isDigit
  discard (takeSpaced Text.isBlank)
  if ds.isEmpty then return none
  let n := Number.digitsValue ds
  require (n ≤ greatestBound)
  return some n

def bounds : Read (Nat × Option Nat) := do
  bumpSkip
  discard next
  let least ← bound
  if (← next) == ',' then
    bumpSkip
    if (← next) == '\x7d' then
      return (← least, none)
    let least ← least
    let most ← (← bound)
    require (least ≤ most)
    return (least, some most)
  else
    let n ← least
    return (n, some n)

/-! ## Groups -/

def isNameChar (first : Bool) (c : Char) : Bool :=
  let letter := CharProperty.alphabetic.contains c
  if first then c == '_' || letter
  else c == '_' || c == '.' || c == '[' || c == ']' || letter ||
    Text.Category.numbers.any (·.contains c)

/-- The name of a group up to the closing angle; each name may be given once. -/
def groupName : Read Unit := do
  let r ← get
  match Text.cutAt '>' r.rest with
  | some (c :: cs, rest) =>
    let name := String.ofList (c :: cs)
    require (isNameChar true c && cs.all (isNameChar false) && !r.names.contains name)
    set { r with rest, names := name :: r.names }
  | _ => failure

def Flags.set? (f : Flags) (flag : Char) (value : Bool) : Option Flags :=
  match flag with
  | 'i' => some { f with ignoreCase := value }
  | 'm' => some { f with multiLine := value }
  | 's' => some { f with dotAll := value }
  | 'R' => some { f with anyLineEnd := value }
  | 'u' => some { f with unicode := value }
  | 'x' => some { f with extended := value }
  | 'U' => some f
  | _ => none

/-- The flags of a group up to the colon or parenthesis after them, given those seen so far. A dash
clears the flags after it; none may be given twice, and a dash needs a flag after it. -/
def groupFlags (f : Flags) (seen : List Char) : List Char → Option (Flags × List Char × List Char)
  | [] => none
  | c :: cs =>
    if c == ':' || c == ')' then
      if seen.head? == some '-' then none else some (f, seen, c :: cs)
    else if seen.contains c then none
    else if c == '-' then groupFlags f (c :: seen) cs
    else (f.set? c (!seen.contains '-')).bind fun f => groupFlags f (c :: seen) cs

/-- What the opening of a group says: its flags, or that flags change from here on. -/
inductive Opening where
  | group (flags : Flags)
  | change (flags : Flags)

def groupOpening : Read Opening := do
  let flags := (← get).flags
  for look in ["?=", "?!", "?<=", "?<!"] do
    require (!look.toList.isPrefixOf (← get).rest)
  if ← accept "?P<".toList then
    groupName
    return .group flags
  if ← accept "?<".toList then
    groupName
    return .group flags
  if ← accept ['?'] then
    let (flags, seen, rest) ← groupFlags flags [] (← get).rest
    modify fun r => { r with rest }
    let close ← next
    bump
    if close == ')' then
      require (!seen.isEmpty)
      return .change flags
    return .group flags
  return .group flags

/-! ## Patterns -/

def primitive : Read Pattern := do
  let flags := (← get).flags
  let c ← next
  match c with
  | '\\' =>
    match ← escape with
    | .literal c => return .chars (flags.fold (.single c))
    | .set set =>
      requireWhole flags set
      return .chars set
    | .assertion assertion => return .assert assertion
  | '.' =>
    bump
    require flags.unicode
    let lineEnds :=
      if flags.dotAll then CharSet.none
      else if flags.anyLineEnd then .ranges [('\n', '\n'), ('\r', '\r')]
      else .single '\n'
    return .chars lineEnds.compl
  | '^' =>
    bump
    return .assert
      (if !flags.multiLine then .textStart
      else if flags.anyLineEnd then .anyLineStart
      else .lineStart)
  | '$' =>
    bump
    return .assert
      (if !flags.multiLine then .textEnd else if flags.anyLineEnd then .anyLineEnd else .lineEnd)
  | c =>
    bump
    return .chars (flags.fold (.single c))

/-- The parts of a sequence, last one first: patterns, and places where flags change. -/
abbrev Parts := List (Option Pattern)

def sequence (parts : Parts) : Pattern :=
  (parts.filterMap id).foldl (fun rest p => p.andThen rest) .empty

/-- The parts with the last one repeated; there must be one, and it must be a pattern. -/
def repeatLast (parts : Parts) (least : Nat) (most : Option Nat) : Read Parts :=
  match parts with
  | some p :: parts => return some (.repeated p least most) :: parts
  | _ => failure

/-- The alternatives up to the end of the pattern or of the group, given those before and the parts
of the present one. -/
def alternatives : (fuel : Nat) → (done : List Pattern) → Parts → Read Pattern
  | 0, _, _ => failure
  | fuel + 1, done, parts => do
    skip
    let finish : Pattern := done.foldl (fun later p => .either p later) (sequence parts)
    match ← next? with
    | none => return finish
    | some ')' => return finish
    | some '|' =>
      bump
      alternatives fuel (sequence parts :: done) []
    | some '(' =>
      bump
      skip
      let outer := (← get).flags
      match ← groupOpening with
      | .change flags =>
        modify fun r => { r with flags }
        alternatives fuel done (none :: parts)
      | .group flags =>
        modify fun r => { r with flags }
        let inner ← alternatives fuel [] []
        require ((← next) == ')')
        bump
        modify fun r => { r with flags := outer }
        alternatives fuel done (some inner :: parts)
    | some '[' =>
      let flags := (← get).flags
      let set ← bracketed (2 * (← get).rest.length + 2)
      requireWhole flags set
      alternatives fuel done (some (.chars set) :: parts)
    | some '\x7b' =>
      require (parts.head?.any (·.isSome))
      let (least, most) ← bounds
      require ((← next) == '\x7d')
      bumpSkip
      discard (accept ['?'])
      alternatives fuel done (← repeatLast parts least most)
    | some c =>
      if c == '?' || c == '*' || c == '+' then
        bump
        discard (accept ['?'])
        let least := if c == '+' then 1 else 0
        let most := if c == '?' then some 1 else none
        alternatives fuel done (← repeatLast parts least most)
      else
        let p ← primitive
        alternatives fuel done (some p :: parts)

/-- The pattern that a text denotes. Each call of `alternatives` but the last of a group takes a
character, so twice the length of the text bounds the calls. The text alone decides: a pattern is
not refused for being large or deeply nested. -/
def read? (caseSensitive : Bool) (text : String) : Option Pattern :=
  let cs := text.toList
  let start : Reading := ⟨cs, { ignoreCase := !caseSensitive }, []⟩
  match (alternatives (2 * cs.length + 2) [] []).run start with
  | some (p, r) => if r.rest.isEmpty then some p else none
  | none => none

end Escalation.Pattern
