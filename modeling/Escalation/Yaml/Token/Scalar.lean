import Escalation.Yaml.Cursor

/-!
# Scalars in a YAML text

The three ways to write a scalar. A plain one goes on as long as its lines are indented enough and
nothing in it could be structure; a quoted one ends at its quote; the lines of a block are below its
mark.
-/

namespace Escalation.Yaml

/-- Whether brackets surround a place; there they and commas are structure. -/
inductive Surroundings where
  | block
  | flow
deriving DecidableEq, Repr

def flowMarks : List Char :=
  [',', '[', ']', '\x7b', '\x7d']

/-! ## Plain scalars -/

/-- Whether a plain scalar ends before the next character. -/
def plainEnds (s : Surroundings) (cur : Cursor) : Bool :=
  match cur.head? with
  | none => true
  | some c =>
    isBlank c || isBreak c || (c == ':' && !isSolid (cur.peek? 1)) ||
      (s = .flow && flowMarks.contains c)

/-- Whether a colon stands where it might be read as part of the scalar or as structure. -/
def colonIsUnclear (s : Surroundings) (cur : Cursor) : Bool :=
  s = .flow && cur.isAt ':' &&
    match cur.peek? 1 with
    | some c => c == '?' || flowMarks.contains c
    | none => false

def plainWord (s : Surroundings) : (fuel : Nat) → (read : List Char) → Cursor →
    Option (List Char × Cursor)
  | 0, _, _ => none
  | fuel + 1, read, cur =>
    if colonIsUnclear s cur then none
    else if plainEnds s cur then some (read.reverse, cur)
    else
      match cur.head? with
      | some c => plainWord s fuel (c :: read) (cur.skip 1)
      | none => some (read.reverse, cur)

/-- A plain scalar, whether white space at its end went over the end of a line, and the place after
that. -/
def plainFrom (s : Surroundings) (indent : Nat) : (fuel : Nat) → (read : List Char) → Gap → Cursor →
    Option (List Char × Bool × Cursor)
  | 0, _, _, _ => none
  | fuel + 1, read, gap, cur =>
    if cur.atDocumentMark || cur.isAt '#' then some (read, gap.broken, cur)
    else do
      let (word, next) ← plainWord s (cur.rest.length + 1) [] cur
      let (read, gap) := if word.isEmpty then (read, gap) else (read ++ gap.folded ++ word, {})
      match next.head? with
      | some c =>
        if isBlank c || isBreak c then
          let (gap, after) ← Gap.read indent gap next
          if s = .block && after.column < indent then some (read, gap.broken, after)
          else plainFrom s indent fuel read gap after
        else some (read, gap.broken, next)
      | none => some (read, gap.broken, next)

/-- The plain scalar at a place, inside a block at column `indent - 1`. It may go over several
lines, each further right than that column. -/
def plain? (s : Surroundings) (indent : Nat) (cur : Cursor) : Option (String × Bool × Cursor) :=
  (plainFrom s indent (cur.rest.length + 1) [] {} cur).map fun (read, broken, cur) =>
    (String.ofList read, broken, cur)

/-! ## Quoted scalars -/

def hexValue? (digits : List Char) : Option Nat :=
  let step (n : Nat) (c : Char) : Option Nat :=
    if c.isDigit then some (16 * n + (c.toNat - '0'.toNat))
    else if 'a' ≤ c && c ≤ 'f' then some (16 * n + (c.toNat - 'a'.toNat + 10))
    else if 'A' ≤ c && c ≤ 'F' then some (16 * n + (c.toNat - 'A'.toNat + 10))
    else none
  digits.foldlM step 0

def codePoint? (digits : Nat) (cur : Cursor) : Option (Char × Cursor) :=
  let ds := cur.rest.take digits
  if ds.length == digits then
    (hexValue? ds).bind fun n =>
      if n.isValidChar then some (Char.ofNat n, cur.skip digits) else none
  else none

def escapes : List (Char × Nat) :=
  [('0', 0), ('a', 7), ('b', 8), ('t', 9), ('\t', 9), ('n', 10), ('v', 11), ('f', 12), ('r', 13),
    ('e', 27), (' ', 32), ('"', 34), ('/', 47), ('\\', 92), ('N', 0x85), ('_', 0xA0),
    ('L', 0x2028), ('P', 0x2029)]

def escape? (cur : Cursor) : Option (Char × Cursor) := do
  let c ← cur.head?
  let next := cur.skip 1
  match c with
  | 'x' => codePoint? 2 next
  | 'u' => codePoint? 4 next
  | 'U' => codePoint? 8 next
  | c => (escapes.lookup c).map fun n => (Char.ofNat n, next)

/-- The characters of one word inside quotes, and whether an escaped end of a line ends it. -/
def quotedWord (quote : Char) : (fuel : Nat) → (read : List Char) → Cursor →
    Option (List Char × Bool × Cursor)
  | 0, _, _ => none
  | fuel + 1, read, cur =>
    match cur.rest with
    | [] => some (read.reverse, false, cur)
    | c :: rest =>
      if isBlank c || isBreak c then some (read.reverse, false, cur)
      else if c == quote then
        if quote == '\'' && rest.head? == some '\'' then
          quotedWord quote fuel (c :: read) (cur.skip 2)
        else some (read.reverse, false, cur)
      else if c == '\\' && quote == '"' then
        match (cur.skip 1).lineBreak? with
        | some (_, next) => some (read.reverse, true, next)
        | none => do
          let (e, next) ← escape? (cur.skip 1)
          quotedWord quote fuel (e :: read) next
      else quotedWord quote fuel (c :: read) (cur.skip 1)

/-- The text inside quotes, behind what was read of it, and the place after the closing quote. -/
def quotedFrom (quote : Char) : (fuel : Nat) → (read : List Char) → Cursor →
    Option (String × Cursor)
  | 0, _, _ => none
  | fuel + 1, read, cur =>
    if cur.atDocumentMark then none
    else do
      let (word, escaped, next) ← quotedWord quote (cur.rest.length + 1) [] cur
      let read := read ++ word
      if next.isAt quote then some (String.ofList read, next.skip 1)
      else
        let (gap, after) ← Gap.read 0 { broken := escaped } next
        if after.rest.isEmpty then none
        else quotedFrom quote fuel (read ++ gap.folded) after

/-- The scalar between the quote at a place and the next one. -/
def quoted? (quote : Char) (cur : Cursor) : Option (String × Cursor) :=
  quotedFrom quote (cur.rest.length + 1) [] (cur.skip 1)

/-! ## Block scalars -/

/-- What becomes of the ends of lines at the end of a block scalar: all but the first are dropped,
all are, or none is. -/
inductive Chomping where
  | clip
  | strip
  | keep
deriving DecidableEq, Repr

def chomping? (cur : Cursor) : Option (Chomping × Cursor) :=
  match cur.head? with
  | some '+' => some (.keep, cur.skip 1)
  | some '-' => some (.strip, cur.skip 1)
  | _ => none

/-- The digit that says how far a block scalar is indented, which is not zero. -/
def increment? (cur : Cursor) : Option (Option Nat × Cursor) :=
  match cur.head? with
  | some c =>
    if c == '0' then none
    else if c.isDigit then some (some (c.toNat - '0'.toNat), cur.skip 1)
    else some (none, cur)
  | none => some (none, cur)

def blockHeader? (cur : Cursor) : Option (Chomping × Option Nat × Cursor) :=
  match chomping? cur with
  | some (chomping, cur) => (increment? cur).map fun (n, cur) => (chomping, n, cur)
  | none =>
    (increment? cur).map fun (n, cur) =>
      match n, chomping? cur with
      | some _, some (chomping, cur) => (chomping, n, cur)
      | _, _ => (.clip, n, cur)

/-- The ends of lines before the next line with something on it, and the greatest indentation met.
Lines are indented by at most `indent`, if it is known. -/
def blockBreaks (indent : Option Nat) : (fuel : Nat) → (greatest : Nat) → (read : List Char) →
    Cursor → Option (Nat × List Char × Cursor)
  | 0, _, _, _ => none
  | fuel + 1, greatest, read, cur =>
    let room := match indent with
      | some n => n - cur.column
      | none => cur.rest.length
    let spaces := (cur.rest.take room).takeWhile (· == ' ')
    let cur := cur.skip spaces.length
    let greatest := max greatest cur.column
    let inside := match indent with
      | some n => cur.column < n
      | none => true
    if inside && cur.isAt '\t' then none
    else
      match cur.lineBreak? with
      | some (c, next) => blockBreaks indent fuel greatest (read ++ [c]) next
      | none => some (greatest, read, cur)

/-- The lines of a block scalar. `last` is the end of the line before, `breaks` are those of the
empty lines after it, and `blankBefore` says whether the line before began with a blank. -/
def blockLines (folds : Bool) (indent : Nat) : (fuel : Nat) → (read : List Char) →
    (last : Option Char) → (breaks : List Char) → (blankBefore : Bool) → Cursor →
    Option (List Char × Option Char × List Char × Cursor)
  | 0, _, _, _, _, _ => none
  | fuel + 1, read, last, breaks, blankBefore, cur =>
    if cur.column == indent && !cur.rest.isEmpty then do
      let blank := cur.head?.any isBlank
      let joint :=
        if folds && last == some '\n' && !blankBefore && !blank then
          if breaks.isEmpty then [' '] else []
        else last.toList
      let (line, cur) := cur.takeWhile (!isBreak ·)
      let read := read ++ joint ++ breaks ++ line
      match cur.lineBreak? with
      | some (c, next) =>
        let (_, breaks, next) ← blockBreaks (some indent) (next.rest.length + 1) 0 [] next
        blockLines folds indent fuel read (some c) breaks blank next
      | none => some (read, none, [], cur)
    else some (read, last, breaks, cur)

/-- The block scalar whose mark is at a place, inside a block at column `outer`, if there is one.
The lines of one that folds are joined. -/
def block? (folds : Bool) (outer : Option Nat) (cur : Cursor) : Option (String × Cursor) := do
  let (chomping, increment, cur) ← blockHeader? (cur.skip 1)
  let cur := cur.skipWhile isBlank
  let cur := if cur.isAt '#' then cur.skipWhile (!isBreak ·) else cur
  let cur ←
    match cur.lineBreak? with
    | some (_, next) => some next
    | none => if cur.rest.isEmpty then some cur else none
  let known := increment.map fun n => outer.getD 0 + n
  let (greatest, breaks, cur) ← blockBreaks known (cur.rest.length + 1) 0 [] cur
  let least := match outer with
    | some n => n + 1
    | none => 1
  let indent := known.getD (max greatest least)
  let (read, last, breaks, cur) ←
    blockLines folds indent (cur.rest.length + 1) [] none breaks false cur
  let ending := match chomping with
    | .strip => []
    | .clip => last.toList
    | .keep => last.toList ++ breaks
  some (String.ofList (read ++ ending), cur)

end Escalation.Yaml
