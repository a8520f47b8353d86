import Escalation.Json
import Escalation.Number.Reader
import Escalation.Text.Search
import Escalation.Yaml.Token

/-!
# What scalars denote

A plain scalar may be null, a truth value, an integer or a double; all else is a text, and so is
every scalar in quotes and every block. Digits after a leading zero are a text, for they may be a
code. An integer may have a sign and a mark of its base; one that is too long for 64 bits but not
for 128 cannot be read.
-/

namespace Escalation.Yaml.Scalar

def nullWords : List String :=
  ["null", "Null", "NULL", "~"]

def isNull (text : String) : Bool :=
  nullWords.contains text

def bool? (text : String) : Option Bool :=
  if ["true", "True", "TRUE"].contains text then some true
  else if ["false", "False", "FALSE"].contains text then some false
  else none

def digit? (c : Char) : Option Nat :=
  if c.isDigit then some (c.toNat - '0'.toNat)
  else if 'a' ≤ c && c ≤ 'f' then some (c.toNat - 'a'.toNat + 10)
  else if 'A' ≤ c && c ≤ 'F' then some (c.toNat - 'A'.toNat + 10)
  else none

def digits? (base : Nat) (cs : List Char) : Option Nat :=
  let step (n : Nat) (c : Char) : Option Nat :=
    (digit? c).bind fun d => if d < base then some (n * base + d) else none
  if cs.isEmpty then none else cs.foldlM step 0

/-- Whether digits follow a leading zero. -/
def isCode (cs : List Char) : Bool :=
  match cs with
  | '0' :: c :: rest => (c :: rest).all Char.isDigit
  | _ => false

/-- The size of an integer after its sign: in base 16, 8 or 2 after a mark, else in base ten. -/
def magnitude? (cs : List Char) : Option Nat :=
  match cs with
  | '0' :: 'x' :: rest => digits? 16 rest
  | '0' :: 'o' :: rest => digits? 8 rest
  | '0' :: 'b' :: rest => digits? 2 rest
  | _ => if isCode cs then none else digits? 10 cs

def integer? (cs : List Char) : Option Int :=
  let (negative, rest) := Number.signed cs
  (magnitude? rest).map fun n => if negative then -(n : Int) else n

def infinityWords : List String :=
  [".inf", ".Inf", ".INF"]

/-- The double that a plain scalar is. Numbers beyond the greatest double are texts. -/
def float? (text : String) : Option Float :=
  let (negative, rest) := Number.signed text.toList
  if infinityWords.contains (String.ofList rest) then
    some (if negative then -(1.0 / 0.0) else 1.0 / 0.0)
  else if [".nan", ".NaN", ".NAN"].contains text then some (0.0 / 0.0)
  else if isCode rest then none
  else
    match Number.read? text.toList with
    | some x => if x.isFinite then some x else none
    | none => none

/-- An integer as a document, if it is short enough: one of 64 bits is kept, a longer one of at most
128 bits is refused, and the longest are doubles. -/
def ofInteger? (text : String) (n : Int) : Option Json :=
  if -(Nat.pow 2 63) ≤ n && n < wordSize then some (.ofInt n)
  else if -(Nat.pow 2 127) ≤ n && n < Nat.pow 2 128 then none
  else
    match float? text with
    | some x => some (.ofFloat x)
    | none => some (.text text)

/-- What a plain scalar denotes: the first of null, a truth value, an integer and a double that it
can be, else a text. -/
def plain? (text : String) : Option Json :=
  if text == "" || isNull text then some .null
  else
    match bool? text with
    | some b => some (.bool b)
    | none =>
      match integer? text.toList with
      | some n => ofInteger? text n
      | none =>
        match float? text with
        | some x => some (.ofFloat x)
        | none => some (.text text)

/-- What a scalar with the tag of a known kind of data denotes. -/
def known? (name text : String) : Option Json :=
  match name with
  | "null" => if isNull text then some .null else none
  | "bool" => (bool? text).map .bool
  | "int" => (integer? text.toList).bind (ofInteger? text)
  | "float" => (float? text).map .ofFloat
  | _ => some (.text text)

/-- What a scalar denotes. A tag decides if there is one, else a scalar that is not plain is a
text. -/
def read? (tag : Option Tag) (style : Style) (text : String) : Option Json :=
  match tag with
  | some .custom => some .foreign
  | some (.known name) => known? name text
  | none => if style = .plain then plain? text else some (.text text)

end Escalation.Yaml.Scalar
