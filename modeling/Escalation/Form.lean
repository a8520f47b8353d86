import Escalation.Json
import Escalation.Number.Reader

/-!
# Reading forms

How the types of this library are read from documents. A reader gives nothing for a document that
is not the form of its type. The members of a mapping are looked for by name, some by one of
several names; a member that is given twice is refused, and members that no reader asks for are
passed over. Nothing is converted: a number is not read from a text, nor an integer from `5.0`.
A mapping is read from its members by name only (`Form.members?`).

Where a type has defaults, a missing member takes its default, and null does not stand for it. The
exceptions are members that may be null, and YAML, where null is also an empty list or mapping.
-/

namespace Escalation

/-- The syntax that a document was written in. The two differ in what null stands for and in how a
word may be spelled. -/
inductive Dialect where
  | json
  /-- Null is also an empty list and an empty mapping, for that is what stands after a name with
  nothing behind it. -/
  | yaml
deriving DecidableEq, Repr

namespace Form

/-- A reader of forms: what a document says, unless it is not the form of such a thing. Members
that no reader asks for are passed over. -/
abbrev Reader (α : Type) := Json → Option α

/-- The members of a mapping, as they stand in the document. -/
abbrev Members := List (String × Json)

/-! ## Parts without parts -/

def bool? : Reader Bool
  | .bool b => some b
  | _ => none

def text? : Reader String
  | .text s => some s
  | _ => none

/-- A number; an integer is one. -/
def float? : Reader Float
  | .number (.integer n) => some (Number.ofInt n)
  | .number (.real x) => some x
  | _ => none

def integer? (low high : Int) : Reader Int
  | .number (.integer n) => if low ≤ n && n ≤ high then some n else none
  | _ => none

def int32? : Reader Int :=
  integer? (-2147483648) 2147483647

def count? (json : Json) : Option Nat :=
  (integer? 0 (wordSize - 1 : Nat) json).map Int.toNat

/-- A word that `ofName?` knows. In JSON it may also be the name of a single member that is
null. -/
def word? {α : Type} (d : Dialect) (ofName? : String → Option α) : Reader α
  | .text word => ofName? word
  | .object [(word, .null)] => if d = .json then ofName? word else none
  | _ => none

/-! ## Lists and mappings -/

def nullable? {α : Type} (read : Reader α) : Reader (Option α)
  | .null => some none
  | json => (read json).map some

def list? {α : Type} (d : Dialect) (item : Reader α) : Reader (List α)
  | .list items => items.mapM item
  | .null => if d = .yaml then some [] else none
  | _ => none

/-- The members of a mapping. The other way to write one, as a list of the values in the order in
which the type declares its fields, is left out: such a list is refused here. -/
def members? (d : Dialect) : Reader Members
  | .object members => some members
  | .null => if d = .yaml then some [] else none
  | _ => none

/-- The member that has one of the names, if there is one; nothing can be read if there are more. -/
def given? (names : List String) (members : Members) : Option (Option Json) :=
  match members.filter fun m => names.contains m.1 with
  | [] => some none
  | [(_, json)] => some (some json)
  | _ => none

def required? {α : Type} (names : List String) (read : Reader α) (members : Members) : Option α :=
  (given? names members).bind fun json => json.bind read

def orDefault? {α : Type} (names : List String) (default : α) (read : Reader α)
    (members : Members) : Option α :=
  (given? names members).bind fun json =>
    match json with
    | none => some default
    | some json => read json

def optional? {α : Type} (names : List String) (read : Reader α) (members : Members) :
    Option (Option α) :=
  orDefault? names none (nullable? read) members

/-! ## Writing -/

def orNull {α : Type} (write : α → Json) : Option α → Json
  | none => .null
  | some a => write a

def memberOf {α : Type} (name : String) (write : α → Json) : Option α → Members
  | none => []
  | some a => [(name, write a)]

def listOf {α : Type} (write : α → Json) (items : List α) : Json :=
  .list (items.map write)

def nonemptyList {α : Type} (name : String) (write : α → Json) (items : List α) : Members :=
  if items.isEmpty then [] else [(name, listOf write items)]

end Form

end Escalation
