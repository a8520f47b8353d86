import Escalation.Keyed
import Escalation.Number.Layout
import Escalation.Number.Reader
import Escalation.Text.Search

/-!
# Values

The data that rules compare: attributes of a user, entities, metadata, and what a condition
compares them with. A value shows three faces. `Value.number?` is its numeric view, which a text
has when it denotes a number; `Value.truthy` is its truth; `Value.display` is the text that messages
show and that text operators search.

The members of an object are a map (`Escalation.Keyed`). `Value.Canonical` says that they are in
order at every depth, and `Value.canonical` puts them so.
-/

namespace Escalation

/-- A value: what fields hold and what operands are. Members of an object keep the order in which
they stand; `Canonical` says that this is the order of their names. -/
inductive Value where
  | null
  | bool (b : Bool)
  | number (x : Float)
  | text (s : String)
  | list (items : List Value)
  | object (members : List (String × Value))
deriving Inhabited

namespace Value

/-! ## Kinds -/

inductive Kind where
  | null | bool | number | text | list | object
deriving DecidableEq, Repr

def Kind.name : Kind → String
  | .null => "null"
  | .bool => "bool"
  | .number => "number"
  | .text => "string"
  | .list => "array"
  | .object => "object"

def kind : Value → Kind
  | .null => .null
  | .bool _ => .bool
  | .number _ => .number
  | .text _ => .text
  | .list _ => .list
  | .object _ => .object

/-! ## Views -/

def text? : Value → Option String
  | .text s => some s
  | _ => none

def items? : Value → Option (List Value)
  | .list items => some items
  | _ => none

/-- The number that the value is, or that its text denotes between blanks. -/
def number? : Value → Option Float
  | .number x => some x
  | .text s => Number.read? (Text.trimChars s.toList)
  | _ => none

/-- The words that are false, beside the empty text. -/
def falseWords : List String :=
  ["false", "no", "off", "0"]

/-- Whether the value counts as true. -/
def truthy : Value → Bool
  | .null => false
  | .bool b => b
  | .number x => x != 0.0
  | .text s =>
    let word := Text.lowerAscii (Text.trim s)
    word != "" && !falseWords.contains word
  | .list items => !items.isEmpty
  | .object members => !members.isEmpty

/-- Whole numbers below this size are shown as integers, so negative zero has no sign. -/
def integerLimit : Nat := Nat.pow 10 15

def displayNumber (x : Float) : String :=
  match (Number.Binary.ofFloat x).integer? with
  | some n => if n.natAbs < integerLimit then toString n else Number.Layout.plain.render x
  | none => Number.Layout.plain.render x

mutual
/-- The value as it is shown: a text without quotes, an object by its kind alone. -/
def display : Value → String
  | .null => "null"
  | .bool b => if b then "true" else "false"
  | .number x => displayNumber x
  | .text s => s
  | .list items => "[" ++ displayItems items ++ "]"
  | .object _ => "\x7bobject\x7d"
termination_by structural value => value
def displayItems : List Value → String
  | [] => ""
  | item :: items => item.display ++ (if items.isEmpty then "" else ", ") ++ displayItems items
termination_by structural items => items
end

/-! ## Sameness -/

mutual
/-- Whether two values are the same, numbers being compared as numbers: zero is the same as its
negative, and what is not a number is not the same as itself. -/
def same : Value → Value → Bool
  | .null, .null => true
  | .bool a, .bool b => a == b
  | .number x, .number y => x == y
  | .text s, .text t => s == t
  | .list items, .list others => sameItems items others
  | .object members, .object others => sameMembers members others
  | _, _ => false
termination_by structural value => value
def sameItems : List Value → List Value → Bool
  | [], [] => true
  | a :: items, b :: others => a.same b && sameItems items others
  | _, _ => false
termination_by structural items => items
def sameMembers : List (String × Value) → List (String × Value) → Bool
  | [], [] => true
  | (m, a) :: members, (n, b) :: others => m == n && a.same b && sameMembers members others
  | _, _ => false
termination_by structural members => members
end

/-! ## Canonical values -/

mutual
/-- The members of every object in the value are a map: they stand in the order of their names,
each name once, at every depth. -/
def Canonical : Value → Prop
  | .list items => CanonicalItems items
  | .object members => Keyed.Ascending members ∧ CanonicalMembers members
  | _ => True
termination_by structural value => value
def CanonicalItems : List Value → Prop
  | [] => True
  | item :: items => item.Canonical ∧ CanonicalItems items
termination_by structural items => items
def CanonicalMembers : List (String × Value) → Prop
  | [] => True
  | (_, value) :: members => value.Canonical ∧ CanonicalMembers members
termination_by structural members => members
end

mutual
/-- The value with the members of each object as a map, in which the last member of a name counts.
It is what is made of a document, whose members may stand in any order and more than once. -/
def canonical : Value → Value
  | .list items => .list (canonicalItems items)
  | .object members => .object (Keyed.ofList (canonicalMembers members))
  | value => value
termination_by structural value => value
def canonicalItems : List Value → List Value
  | [] => []
  | item :: items => item.canonical :: canonicalItems items
termination_by structural items => items
def canonicalMembers : List (String × Value) → List (String × Value)
  | [] => []
  | (name, value) :: members => (name, value.canonical) :: canonicalMembers members
termination_by structural members => members
end

theorem canonicalMembers_iff (members : List (String × Value)) :
    CanonicalMembers members ↔ ∀ e ∈ members, e.2.Canonical := by
  induction members with
  | nil => simp [CanonicalMembers]
  | cons e members ih => simp [CanonicalMembers, ih]

theorem canonicalMembers_insert {name : String} {value : Value} {members : List (String × Value)}
    (hv : value.Canonical) (h : CanonicalMembers members) :
    CanonicalMembers (Keyed.insert name value members) := by
  rw [canonicalMembers_iff] at h ⊢
  intro e he
  rcases Keyed.mem_insert he with rfl | he
  · exact hv
  · exact h e he

theorem canonicalMembers_foldl_insert {es map : List (String × Value)}
    (hes : CanonicalMembers es) (hmap : CanonicalMembers map) :
    CanonicalMembers (es.foldl (fun map e => Keyed.insert e.1 e.2 map) map) := by
  induction es generalizing map with
  | nil => exact hmap
  | cons e es ih => exact ih hes.2 (canonicalMembers_insert hes.1 hmap)

mutual
theorem canonical_canonical : (value : Value) → value.canonical.Canonical
  | .null | .bool _ | .number _ | .text _ => trivial
  | .list items => canonicalItems_canonical items
  | .object members =>
    ⟨Keyed.ascending_ofList _,
      canonicalMembers_foldl_insert (canonicalMembers_canonical members) trivial⟩
theorem canonicalItems_canonical : (items : List Value) → CanonicalItems (canonicalItems items)
  | [] => trivial
  | item :: items => ⟨canonical_canonical item, canonicalItems_canonical items⟩
theorem canonicalMembers_canonical :
    (members : List (String × Value)) → CanonicalMembers (canonicalMembers members)
  | [] => trivial
  | (_, value) :: members => ⟨canonical_canonical value, canonicalMembers_canonical members⟩
end

end Value

end Escalation
