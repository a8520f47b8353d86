/-!
# Places in a YAML text

A cursor is the rest of a text with its line and column, since indentation gives YAML its
structure. The white space between two words of a scalar is a `Gap`; `Gap.folded` is what is left of
it when the lines of the scalar are joined.
-/

namespace Escalation.Yaml

/-- A place in a text and what follows it. Places are compared by their index, and blocks by their
column. -/
structure Cursor where
  rest : List Char
  /-- How many characters stand before the place. -/
  index : Nat := 0
  line : Nat := 0
  /-- How many characters stand before it on its line. -/
  column : Nat := 0

/-! ## Classes of characters -/

def isBlank (c : Char) : Bool :=
  c == ' ' || c == '\t'

def isBreak (c : Char) : Bool :=
  c == '\n' || c == '\r' || c.toNat == 0x85 || c.toNat == 0x2028 || c.toNat == 0x2029

/-- Whether a character, if there is one, is neither a blank nor the end of a line. -/
def isSolid : Option Char → Bool
  | none => false
  | some c => !isBlank c && !isBreak c

def isPrintable (c : Char) : Bool :=
  let n := c.toNat
  n == 9 || n == 10 || n == 13 || (0x20 ≤ n && n ≤ 0x7E) || n == 0x85 ||
    (0xA0 ≤ n && n ≤ 0xFFFD) || 0x10000 ≤ n

def isWordChar (c : Char) : Bool :=
  c.isAlphanum || c == '-' || c == '_'

namespace Cursor

def head? (cur : Cursor) : Option Char :=
  cur.rest.head?

def peek? (cur : Cursor) (n : Nat) : Option Char :=
  cur.rest[n]?

def isAt (cur : Cursor) (c : Char) : Bool :=
  cur.head? == some c

def skip (cur : Cursor) (n : Nat) : Cursor :=
  ⟨cur.rest.drop n, cur.index + n, cur.line, cur.column + n⟩

/-- The characters of the line from the place on, as long as they are of a kind, and the place
after them. -/
def takeWhile (cur : Cursor) (p : Char → Bool) : List Char × Cursor :=
  let taken := cur.rest.takeWhile p
  (taken, cur.skip taken.length)

def skipWhile (cur : Cursor) (p : Char → Bool) : Cursor :=
  (cur.takeWhile p).2

/-- The end of a line and the place after it, if the line ends at the place. A carriage return, a
line feed, both, and a next-line character are all one line feed. -/
def lineBreak? (cur : Cursor) : Option (Char × Cursor) :=
  match cur.rest with
  | '\r' :: '\n' :: rest => some ('\n', ⟨rest, cur.index + 2, cur.line + 1, 0⟩)
  | c :: rest =>
    if isBreak c then
      let read := if c.toNat == 0x2028 || c.toNat == 0x2029 then c else '\n'
      some (read, ⟨rest, cur.index + 1, cur.line + 1, 0⟩)
    else none
  | [] => none

/-- Whether three of a character stand at the start of the line as a mark of their own. -/
def atMark (cur : Cursor) (c : Char) : Bool :=
  cur.column == 0 && cur.rest.take 3 == [c, c, c] && !isSolid (cur.peek? 3)

def atDocumentMark (cur : Cursor) : Bool :=
  cur.atMark '-' || cur.atMark '.'

end Cursor

/-- White space between two words of a scalar, as it was read. What a reader of the scalar sees of
it is `Gap.folded`. -/
structure Gap where
  /-- The blanks, if it is on one line. -/
  blanks : List Char := []
  /-- Whether it goes over the end of a line. -/
  broken : Bool := false
  /-- The first end of a line, unless it was escaped. -/
  first : Option Char := none
  /-- The other ends of lines. -/
  others : List Char := []

namespace Gap

/-- What is left of the gap when lines are joined: one end of a line becomes a space, and of
several the first is dropped. -/
def folded (gap : Gap) : List Char :=
  if gap.broken then
    match gap.first with
    | some '\n' => if gap.others.isEmpty then [' '] else gap.others
    | first => first.toList ++ gap.others
  else gap.blanks

/-- The gap at a place, added to what was read of it. A tab before column `indent` of a line is
refused. -/
def readFrom (indent : Nat) : (fuel : Nat) → Gap → Cursor → Option (Gap × Cursor)
  | 0, _, _ => none
  | fuel + 1, gap, cur =>
    match cur.lineBreak? with
    | some (c, next) =>
      let gap :=
        if gap.broken then { gap with others := gap.others ++ [c] }
        else { gap with blanks := [], broken := true, first := some c }
      readFrom indent fuel gap next
    | none =>
      match cur.head? with
      | some c =>
        if isBlank c then
          if gap.broken then
            if c == '\t' && cur.column < indent then none
            else readFrom indent fuel gap (cur.skip 1)
          else readFrom indent fuel { gap with blanks := gap.blanks ++ [c] } (cur.skip 1)
        else some (gap, cur)
      | none => some (gap, cur)

def read (indent : Nat) (gap : Gap) (cur : Cursor) : Option (Gap × Cursor) :=
  readFrom indent (cur.rest.length + 1) gap cur

end Gap

end Escalation.Yaml
