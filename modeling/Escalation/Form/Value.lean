import Escalation.Form
import Escalation.Value.Attributes

/-!
# Forms of values

A value is any document without a foreign part. Its numbers are doubles, whether the document has
an integer or not, and of several members of one name the last counts.
-/

namespace Escalation

namespace Value

mutual
/-- The value of a document. Only a foreign part, at whatever depth, has none. -/
def ofJson? : Json → Option Value
  | .null => some .null
  | .bool b => some (.bool b)
  | .number (.integer n) => some (.number (Number.ofInt n))
  | .number (.real x) => some (.number x)
  | .text s => some (.text s)
  | .list items => (itemsOfJson? items).map .list
  | .object members => (membersOfJson? members).map fun members => .object (Keyed.ofList members)
  | .foreign => none
termination_by structural json => json
def itemsOfJson? : List Json → Option (List Value)
  | [] => some []
  | item :: items => do
    let value ← ofJson? item
    let values ← itemsOfJson? items
    some (value :: values)
termination_by structural items => items
def membersOfJson? : List (String × Json) → Option (List (String × Value))
  | [] => some []
  | (name, json) :: members => do
    let value ← ofJson? json
    let values ← membersOfJson? members
    some ((name, value) :: values)
termination_by structural members => members
end

mutual
def toJson : Value → Json
  | .null => .null
  | .bool b => .bool b
  | .number x => .ofFloat x
  | .text s => .text s
  | .list items => .list (itemsToJson items)
  | .object members => .object (membersToJson members)
termination_by structural value => value
def itemsToJson : List Value → List Json
  | [] => []
  | item :: items => item.toJson :: itemsToJson items
termination_by structural items => items
def membersToJson : List (String × Value) → List (String × Json)
  | [] => []
  | (name, value) :: members => (name, value.toJson) :: membersToJson members
termination_by structural members => members
end

end Value

namespace Attributes

def ofJson? : Form.Reader Attributes
  | .object members => (Value.membersOfJson? members).map ofList
  | _ => none

def toJson (a : Attributes) : Json :=
  .object (Value.membersToJson a.entries)

end Attributes

end Escalation
