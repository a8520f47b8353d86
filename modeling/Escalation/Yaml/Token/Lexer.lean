import Escalation.Yaml.Token
import Escalation.Yaml.Token.Scalar

/-!
# The tokens of a YAML text

`Token.scan?` splits a text into tokens. Indentation begins and ends blocks. That something is a key
shows only at the colon behind it, so the place where a key may have begun is kept, and the tokens
that say so are put in front of what stands there: tokens are collected in slots, and a slot may
grow at its front.

A key without a question mark stands on one line and has at most 1024 characters. Where it is the
only thing that can stand at its place, a missing colon is an error.
-/

namespace Escalation.Yaml

/-- A place where a key may have begun. A colon that reaches it makes what stands there a key. -/
structure PossibleKey where
  /-- The slot of its first token. -/
  slot : Nat
  /-- Whether only a key can stand there. -/
  required : Bool
  start : Cursor

/-- Whether a colon at a place can still belong to the key. -/
def PossibleKey.reaches (key : PossibleKey) (cur : Cursor) : Bool :=
  key.start.line == cur.line && cur.index ≤ key.start.index + 1024

/-- What is known at a place of the text: the blocks and brackets around it, where keys may have
begun, and the tokens so far in slots. -/
structure Scan where
  cur : Cursor
  slots : Array (List Token) := #[]
  /-- The column of the innermost block, or -1 outside of all blocks. -/
  indent : Int := -1
  /-- The columns of the blocks around it, the innermost first. -/
  outer : List Int := []
  /-- How many brackets are open. -/
  depth : Nat := 0
  /-- Whether a key may begin here. -/
  keyAllowed : Bool := true
  /-- The key that may have begun inside each open bracket, the innermost first, and outside. -/
  keys : List (Option PossibleKey) := [none]

namespace Scan

def surroundings (s : Scan) : Surroundings :=
  if s.depth == 0 then .block else .flow

def push (s : Scan) (token : Token) : Scan :=
  { s with slots := s.slots.push [token] }

/-- The scan with tokens in front of a slot. -/
def putBefore (s : Scan) (slot : Nat) (tokens : List Token) : Scan :=
  { s with slots := s.slots.modify slot (tokens ++ ·) }

def skip (s : Scan) (n : Nat) : Scan :=
  { s with cur := s.cur.skip n }

/-! ## Keys -/

def setKey (s : Scan) (key : Option PossibleKey) : Scan :=
  { s with keys := key :: s.keys.tail }

/-- The innermost possible key. -/
def key? (s : Scan) : Option PossibleKey :=
  s.keys.head?.join

/-- The scan without the innermost possible key, which may not be a required one. -/
def dropKey (s : Scan) : Option Scan :=
  if s.key?.any (·.required) then none else some (s.setKey none)

/-- The scan at the beginning of what may be a key. -/
def beginKey (s : Scan) : Option Scan :=
  if s.keyAllowed then
    s.dropKey.map fun s =>
      s.setKey (some ⟨s.slots.size, s.depth == 0 && s.indent == s.cur.column, s.cur⟩)
  else some s

def afterKeyPart (s : Scan) (token : Token) (cur : Cursor) : Scan :=
  { s.push token with cur, keyAllowed := false }

/-! ## Blocks -/

def opensBlock (s : Scan) (column : Nat) : Bool :=
  s.depth == 0 && s.indent < column

def openBlock (s : Scan) (column : Nat) : Scan :=
  { s with indent := column, outer := s.indent :: s.outer }

/-- The scan with a block begun at the present column, if none is there. -/
def beginBlock (s : Scan) (token : Token) : Scan :=
  if s.opensBlock s.cur.column then (s.openBlock s.cur.column).push token else s

/-- The ends of the blocks that are further right than a column. -/
def closeBlocks (column : Int) (slots : Array (List Token)) (indent : Int) :
    List Int → Array (List Token) × Int × List Int
  | [] => (slots, indent, [])
  | outer :: rest =>
    if column < indent then closeBlocks column (slots.push [.blockEnd]) outer rest
    else (slots, indent, outer :: rest)

/-- The scan at a column, with the blocks ended that are further right. Brackets ignore columns. -/
def endBlocks (s : Scan) (column : Int) : Scan :=
  if s.depth == 0 then
    let (slots, indent, outer) := closeBlocks column s.slots s.indent s.outer
    { s with slots, indent, outer }
  else s

/-! ## White space -/

/-- The scan at the next token. Comments are passed over. A tab may not stand where it could be
taken for indentation. -/
def toToken : (fuel : Nat) → Scan → Scan
  | 0, s => s
  | fuel + 1, s =>
    let cur := s.cur.skipWhile fun c =>
      c == ' ' || (c == '\t' && (s.depth != 0 || !s.keyAllowed))
    let cur := if cur.isAt '#' then cur.skipWhile (!isBreak ·) else cur
    match cur.lineBreak? with
    | some (_, next) =>
      toToken fuel { s with cur := next, keyAllowed := s.keyAllowed || s.depth == 0 }
    | none => { s with cur }

/-! ## Tokens -/

def documentMark (s : Scan) (token : Token) : Option Scan :=
  (s.endBlocks (-1)).dropKey.map fun s => { (s.push token).skip 3 with keyAllowed := false }

/-- The line that gives the version of YAML, which must be 1.1 or 1.2. -/
def version (s : Scan) : Option Scan := do
  let s ← (s.endBlocks (-1)).dropKey
  let (name, cur) := s.cur.takeWhile fun c => isSolid (some c)
  let (number, cur) := (cur.skipWhile isBlank).takeWhile fun c => isSolid (some c)
  let cur := cur.skipWhile isBlank
  let cur := if cur.isAt '#' then cur.skipWhile (!isBreak ·) else cur
  if name == "%YAML".toList && (number == "1.1".toList || number == "1.2".toList) &&
      !isSolid cur.head? then
    some { s.push .version with cur, keyAllowed := false }
  else none

def openFlow (s : Scan) (token : Token) : Option Scan := do
  let s ← s.beginKey
  some
    { (s.push token).skip 1 with
      depth := s.depth + 1, keys := none :: s.keys, keyAllowed := true }

def closeFlow (s : Scan) (token : Token) : Option Scan := do
  let s ← s.dropKey
  let s := if s.depth == 0 then s else { s with depth := s.depth - 1, keys := s.keys.tail }
  some { (s.push token).skip 1 with keyAllowed := false }

def comma (s : Scan) : Option Scan :=
  s.dropKey.map fun s => { (s.push .comma).skip 1 with keyAllowed := true }

def item (s : Scan) : Option Scan :=
  if s.depth == 0 && !s.keyAllowed then none
  else
    (s.beginBlock .sequenceStart).dropKey.map fun s =>
      { (s.push .item).skip 1 with keyAllowed := true }

def key (s : Scan) : Option Scan :=
  if s.depth == 0 && !s.keyAllowed then none
  else
    (s.beginBlock .mappingStart).dropKey.map fun s =>
      { (s.push .key).skip 1 with keyAllowed := s.depth == 0 }

/-- The colon after a possible key. -/
def valueOf (s : Scan) (key : PossibleKey) : Scan :=
  let column := key.start.column
  let s :=
    if s.opensBlock column then (s.openBlock column).putBefore key.slot [.mappingStart, .key]
    else s.putBefore key.slot [.key]
  { (s.setKey none |>.push .value).skip 1 with keyAllowed := false }

def value (s : Scan) : Option Scan :=
  match s.key? with
  | some key =>
    if key.reaches s.cur then some (s.valueOf key)
    else if key.required then none
    else bare s
  | none => bare s
where
  /-- A colon that no key stands before. -/
  bare (s : Scan) : Option Scan :=
    if s.depth == 0 && !s.keyAllowed then none
    else
      let s := s.beginBlock .mappingStart
      some { (s.push .value).skip 1 with keyAllowed := s.depth == 0 }

def named (s : Scan) (token : String → Token) : Option Scan := do
  let s ← s.beginKey
  let (name, cur) := (s.cur.skip 1).takeWhile isWordChar
  let ends := match cur.head? with
    | some c => isBlank c || isBreak c || "?:,]\x7d%@\x60".toList.contains c
    | none => true
  if name.isEmpty || !ends then none
  else some (s.afterKeyPart (token (String.ofList name)) cur)

def isTagChar (c : Char) : Bool :=
  isWordChar c || ";/?:@&=+$.!~*'()%".toList.contains c

def knownTags : List Char :=
  "tag:yaml.org,2002:".toList

def tagOfName (name : List Char) : Tag :=
  if name.head? == some '!' then .custom
  else .known (String.ofList (if knownTags.isPrefixOf name then name.drop knownTags.length else []))

def tagAt? (cur : Cursor) : Option (Tag × Cursor) :=
  match cur.rest with
  | '!' :: '<' :: _ =>
    let (name, cur) := (cur.skip 2).takeWhile fun c => isTagChar c || c == ',' || c == '[' || c == ']'
    if name.isEmpty || !cur.isAt '>' then none else some (tagOfName name, cur.skip 1)
  | '!' :: '!' :: _ =>
    let (name, cur) := (cur.skip 2).takeWhile isTagChar
    if name.isEmpty then none else some (.known (String.ofList name), cur)
  | _ =>
    let (handle, next) := (cur.skip 1).takeWhile isWordChar
    if !handle.isEmpty && next.isAt '!' then none
    else some (.custom, cur.skipWhile isTagChar)

def tag (s : Scan) : Option Scan := do
  let s ← s.beginKey
  let (tag, cur) ← tagAt? s.cur
  if isSolid cur.head? && !(s.depth != 0 && cur.isAt ',') then none
  else some (s.afterKeyPart (.tag tag) cur)

def block (s : Scan) (folds : Bool) : Option Scan := do
  let s ← s.dropKey
  let outer := if s.indent < 0 then none else some s.indent.toNat
  let (text, cur) ← block? folds outer s.cur
  some { s.push (.scalar .block text) with cur, keyAllowed := true }

def quoted (s : Scan) (quote : Char) : Option Scan := do
  let s ← s.beginKey
  let (text, cur) ← quoted? quote s.cur
  some (s.afterKeyPart (.scalar .quoted text) cur)

def plain (s : Scan) : Option Scan := do
  let s ← s.beginKey
  let (text, broken, cur) ← plain? s.surroundings (s.indent + 1).toNat s.cur
  some { s.afterKeyPart (.scalar .plain text) cur with keyAllowed := broken }

/-- The marks that a plain scalar does not begin with, a dash, a question mark and a colon apart. -/
def marks : List Char :=
  flowMarks ++ "#&*!|>'\"%@\x60".toList

/-- Whether a plain scalar begins with a character, the one after it being known. A dash, a
question mark and a colon begin one only if a word goes on with them. -/
def beginsPlain (s : Scan) (c : Char) (next : Option Char) : Bool :=
  if c == '-' then next.all (!isBlank ·)
  else if c == '?' || c == ':' then s.depth == 0 && isSolid next
  else !marks.contains c && !isBlank c

/-- The scan after the token at the place, which begins with that character. The version and the
marks of documents stand at the start of a line and come first; what no mark begins is a plain
scalar, or nothing. -/
def step (s : Scan) (c : Char) : Option Scan :=
  let cur := s.cur
  let alone := !isSolid (cur.peek? 1)
  if cur.column == 0 && c == '%' then s.version
  else if cur.atMark '-' then s.documentMark .documentStart
  else if cur.atMark '.' then s.documentMark .documentEnd
  else if c == '[' then s.openFlow .flowSequenceStart
  else if c == '\x7b' then s.openFlow .flowMappingStart
  else if c == ']' then s.closeFlow .flowSequenceEnd
  else if c == '\x7d' then s.closeFlow .flowMappingEnd
  else if c == ',' then s.comma
  else if c == '-' && alone then s.item
  else if c == '?' && (s.depth != 0 || alone) then s.key
  else if c == ':' && (s.depth != 0 || alone) then s.value
  else if c == '*' then s.named .reference
  else if c == '&' then s.named .anchor
  else if c == '!' then s.tag
  else if c == '|' && s.depth == 0 then s.block false
  else if c == '>' && s.depth == 0 then s.block true
  else if c == '\'' || c == '"' then s.quoted c
  else if s.beginsPlain c (cur.peek? 1) then s.plain
  else none

def run : (fuel : Nat) → Scan → Option Scan
  | 0, _ => none
  | fuel + 1, s =>
    let s := toToken (s.cur.rest.length + 1) s
    match s.cur.head? with
    | none => (s.endBlocks (-1)).dropKey
    | some c => ((s.endBlocks s.cur.column).step c).bind (run fuel)

end Scan

/-- The tokens of a text. A byte order mark at its start is passed over. -/
def Token.scan? (text : String) : Option (List Token) :=
  let cs := text.toList
  if cs.all isPrintable then
    let cur : Cursor := ⟨cs, 0, 0, 0⟩
    let cur := if cur.head?.any (·.toNat == 0xFEFF) then cur.skip 1 else cur
    (Scan.run (cs.length + 2) { cur }).map fun s => s.slots.toList.flatten
  else none

end Escalation.Yaml
