/-!
# JSON documents

The data that rule files, events and answers are made of. Integers stay integers: a priority is
read from `5` and not from `5.0`. Members keep the order in which they were written, and one name
may stand twice.

A document that was written in another syntax may have parts that JSON has no form for. Such a part
is `foreign`: it can stand in a document and be passed over, but nothing is read from it.
-/

namespace Escalation

/-- A number of a document: an integer of at most 64 bits, or a double. The two are told apart by
how they are written, not by their value. -/
inductive Json.Number where
  | integer (n : Int)
  | real (x : Float)
deriving Repr

/-- A document. What it says is for the readers of forms, to which the order of members makes no
difference. -/
inductive Json where
  | null
  | bool (b : Bool)
  | number (n : Json.Number)
  | text (s : String)
  | list (items : List Json)
  | object (members : List (String × Json))
  /-- A part that JSON has no form for. -/
  | foreign
deriving Repr, Inhabited

namespace Json

def ofInt (n : Int) : Json :=
  .number (.integer n)

def ofNat (n : Nat) : Json :=
  .number (.integer n)

def ofFloat (x : Float) : Json :=
  .number (.real x)

def ofText? : Option String → Json
  | none => .null
  | some s => .text s

def members? : Json → Option (List (String × Json))
  | .object members => some members
  | _ => none

def items? : Json → Option (List Json)
  | .list items => some items
  | _ => none

/-- The value of the member of that name, the last one if there are several. -/
def member? (json : Json) (name : String) : Option Json :=
  json.members?.bind fun members => (members.reverse.find? (·.1 == name)).map (·.2)

end Json

end Escalation
