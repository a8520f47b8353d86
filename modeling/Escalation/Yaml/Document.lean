import Escalation.Json.Printer
import Escalation.Yaml.Scalar
import Escalation.Yaml.Token.Lexer

/-!
# Reading YAML

`Yaml.read?` reads a text that is one YAML document, or none, which is null. A mapping that has a
key twice is refused. A mapping with a key that is no text, and a node with a tag of the text's own,
are foreign parts of the document.

A node may be given a name and referred to later. A reference stands for the node that was given the
name last; inside that node there is none to stand for.
-/

namespace Escalation.Yaml

/-- The names given so far, each with its node once that has been read to its end. -/
abbrev Names := Array (String × Option Json)

namespace Names

/-- The node that was given a name last. -/
def find? (names : Names) (name : String) : Option Json :=
  (names.toList.reverse.find? (·.1 == name)).bind (·.2)

def complete (names : Names) (place : Nat) (node : Json) : Names :=
  names.modify place fun e => (e.1, some node)

end Names

structure Reading (α : Type) where
  result : α
  names : Names
  rest : List Token

/-- A reader of tokens: what it read, the tokens after that and the names given up to there. -/
abbrev Parse (α : Type) := Names → List Token → Option (Reading α)

/-- The anchor and the tag before a node, in either order. -/
def properties : List Token → Option String × Option Tag × List Token
  | .anchor name :: .tag tag :: rest => (some name, some tag, rest)
  | .tag tag :: .anchor name :: rest => (some name, some tag, rest)
  | .anchor name :: rest => (some name, none, rest)
  | .tag tag :: rest => (none, some tag, rest)
  | rest => (none, none, rest)

/-- Whether no two of the keys are the same. -/
def distinctKeys : List (Json × Json) → Bool
  | [] => true
  | (key, _) :: entries =>
    !entries.any (fun e => e.1.render == key.render) && distinctKeys entries

/-- The text that a key is. -/
def keyText? : Json × Json → Option (String × Json)
  | (.text name, value) => some (name, value)
  | _ => none

def mapping? (entries : List (Json × Json)) : Option Json :=
  if distinctKeys entries then
    match entries.mapM keyText? with
    | some members => some (.object members)
    | none => some .foreign
  else none

/-- A collection, which a tag of the text's own makes foreign. -/
def tagged (tag : Option Tag) (node : Json) : Json :=
  if tag = some .custom then .foreign else node

/-- Whether the next token leaves no room for a node, among those given. -/
def isNext (tokens : List Token) (stops : List Token) : Bool :=
  match tokens with
  | token :: _ => stops.contains token
  | [] => false

def memberStops : List Token := [.key, .value, .blockEnd]

/-- The tokens that end an empty item: those of a sequence that stands at the column of its key
include the tokens of the mapping around it. -/
def itemStops (compact : Bool) : List Token :=
  if compact then [.item, .key, .value, .blockEnd] else [.item, .blockEnd]

mutual
/-- A node. Blocks may begin where `block` is set, and a sequence without indentation where
`compact` is. `depth` more levels are allowed; what a reference stands for is not read again, so
its depth does not count. -/
def node? : (fuel depth : Nat) → (block compact : Bool) → Parse Json
  | 0, _, _, _, _, _ => none
  | fuel + 1, depth, block, compact, names, tokens =>
    match tokens with
    | .reference name :: rest => (names.find? name).map fun node => ⟨node, names, rest⟩
    | _ =>
      match properties tokens with
      | (none, tag, rest) => content? fuel depth block compact tag tag.isSome names rest
      | (some name, tag, rest) => do
        let place := names.size
        let r ← content? fuel depth block compact tag true (names.push (name, none)) rest
        some { r with names := r.names.complete place r.result }
/-- A node after its properties. If there were any, it may be empty. -/
def content? : (fuel depth : Nat) → (block compact : Bool) → Option Tag → (mayBeEmpty : Bool) →
    Parse Json
  | 0, _, _, _, _, _, _, _ => none
  | fuel + 1, depth, block, compact, tag, mayBeEmpty, names, tokens =>
    let collection (read : Option (Reading Json)) : Option (Reading Json) :=
      if depth == 0 then none else read.map fun r => { r with result := tagged tag r.result }
    let empty : Option (Reading Json) :=
      if mayBeEmpty then (Scalar.read? tag .plain "").map (⟨·, names, tokens⟩) else none
    match tokens with
    | .scalar style text :: rest => (Scalar.read? tag style text).map (⟨·, names, rest⟩)
    | .item :: _ =>
      if compact then collection (items? fuel (depth - 1) true [] names tokens) else empty
    | .sequenceStart :: rest =>
      if block then collection (items? fuel (depth - 1) false [] names rest) else empty
    | .mappingStart :: rest =>
      if block then collection (members? fuel (depth - 1) [] names rest) else empty
    | .flowSequenceStart :: rest => collection (flowItems? fuel (depth - 1) [] names rest)
    | .flowMappingStart :: rest => collection (flowMembers? fuel (depth - 1) [] names rest)
    | _ => empty
/-- The items of a block sequence, behind those read, the last one first. -/
def items? : (fuel depth : Nat) → (compact : Bool) → List Json → Parse Json
  | 0, _, _, _, _, _ => none
  | fuel + 1, depth, compact, read, names, tokens =>
    match tokens with
    | .item :: rest =>
      if isNext rest (itemStops compact) then items? fuel depth compact (.null :: read) names rest
      else do
        let r ← node? fuel depth true false names rest
        items? fuel depth compact (r.result :: read) r.names r.rest
    | .blockEnd :: rest =>
      some ⟨.list read.reverse, names, if compact then tokens else rest⟩
    | _ => if compact then some ⟨.list read.reverse, names, tokens⟩ else none
/-- The members of a block mapping, behind those read, the last one first. -/
def members? : (fuel depth : Nat) → List (Json × Json) → Parse Json
  | 0, _, _, _, _ => none
  | fuel + 1, depth, read, names, tokens =>
    match tokens with
    | .key :: rest => do
      let key ←
        if isNext rest memberStops then some ⟨.null, names, rest⟩
        else node? fuel depth true true names rest
      let value ←
        match key.rest with
        | .value :: rest =>
          if isNext rest memberStops then some ⟨.null, key.names, rest⟩
          else node? fuel depth true true key.names rest
        | rest => some ⟨.null, key.names, rest⟩
      members? fuel depth ((key.result, value.result) :: read) value.names value.rest
    | .blockEnd :: rest => (mapping? read.reverse).map (⟨·, names, rest⟩)
    | _ => none
/-- The items between brackets, behind those read, the last one first. An item may be a key with a
value, which is a mapping of its own. -/
def flowItems? : (fuel depth : Nat) → List Json → Parse Json
  | 0, _, _, _, _ => none
  | fuel + 1, depth, read, names, tokens =>
    match tokens with
    | .flowSequenceEnd :: rest => some ⟨.list read.reverse, names, rest⟩
    | _ => do
      let item ←
        match tokens with
        | .key :: rest => if depth == 0 then none else pair? fuel (depth - 1) names rest
        | _ => node? fuel depth false false names tokens
      match item.rest with
      | .comma :: rest => flowItems? fuel depth (item.result :: read) item.names rest
      | .flowSequenceEnd :: _ => flowItems? fuel depth (item.result :: read) item.names item.rest
      | _ => none
/-- The key and the value of an item between brackets. -/
def pair? : (fuel depth : Nat) → Parse Json
  | 0, _, _, _ => none
  | fuel + 1, depth, names, tokens => do
    let key ←
      if isNext tokens [.value, .comma, .flowSequenceEnd] then some ⟨.null, names, tokens.tail⟩
      else node? fuel depth false false names tokens
    let value ←
      match key.rest with
      | .value :: rest =>
        if isNext rest [.comma, .flowSequenceEnd] then some ⟨.null, key.names, rest⟩
        else node? fuel depth false false key.names rest
      | rest => some ⟨.null, key.names, rest⟩
    (mapping? [(key.result, value.result)]).map (⟨·, value.names, value.rest⟩)
/-- The members between braces, behind those read, the last one first. -/
def flowMembers? : (fuel depth : Nat) → List (Json × Json) → Parse Json
  | 0, _, _, _, _ => none
  | fuel + 1, depth, read, names, tokens =>
    match tokens with
    | .flowMappingEnd :: rest => (mapping? read.reverse).map (⟨·, names, rest⟩)
    | _ => do
      let key ←
        match tokens with
        | .key :: rest =>
          if isNext rest [.value, .comma, .flowMappingEnd] then some ⟨.null, names, rest⟩
          else node? fuel depth false false names rest
        | _ => node? fuel depth false false names tokens
      let value ←
        match tokens, key.rest with
        | .key :: _, .value :: rest =>
          if isNext rest [.comma, .flowMappingEnd] then some ⟨.null, key.names, rest⟩
          else node? fuel depth false false key.names rest
        | _, rest => some ⟨.null, key.names, rest⟩
      let read := (key.result, value.result) :: read
      match value.rest with
      | .comma :: rest => flowMembers? fuel depth read value.names rest
      | .flowMappingEnd :: _ => flowMembers? fuel depth read value.names value.rest
      | _ => none
end

def deepest : Nat := 128

/-- The node of a document, which is null if nothing stands before the document's end. -/
def root? (tokens : List Token) : Option (Json × List Token) :=
  match tokens with
  | [] => some (.null, [])
  | .documentEnd :: _ => some (.null, tokens)
  | _ =>
    (node? (4 * tokens.length + 4) deepest true false #[] tokens).map fun r => (r.result, r.rest)

def document? (tokens : List Token) : Option Json := do
  let (node, rest) ←
    match tokens with
    | .version :: .documentStart :: rest => root? rest
    | .documentStart :: rest => root? rest
    | .documentEnd :: _ => none
    | _ => root? tokens
  if rest.all (· == .documentEnd) then some node else none

/-- The document that a text denotes: null if there is none, and nothing if there are two or the
text is no YAML. -/
def read? (text : String) : Option Json :=
  (Token.scan? text).bind document?

end Escalation.Yaml
