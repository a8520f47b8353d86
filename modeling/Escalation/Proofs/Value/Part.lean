import Escalation.Proofs.Value.Alike

/-!
# Parts of values

A value has itself as a part, and whatever its items or members have (`Value.Has`). What is asked of
all parts is asked of each item or member: so it is with values whose numbers all stand in order
(`Value.Ordered`), which is to say that nothing in them is not a number.

A map has its members in order and the last of each name, and holds no other values than those it
was made of. So storing a value keeps what is stored ordered (`Attributes.ordered_ofList`).
-/

namespace Escalation

/-- A map has no other entries than those it was made of. -/
theorem Keyed.mem_of_mem_ofList {α : Type} {e : String × α} {entries : List (String × α)}
    (mem : e ∈ ofList entries) : e ∈ entries := by
  have fold : ∀ (es map : List (String × α)),
      e ∈ es.foldl (fun map e => insert e.1 e.2 map) map → e ∈ es ∨ e ∈ map := by
    intro es
    induction es with
    | nil => exact fun map mem => .inr mem
    | cons first es ih =>
      intro map mem
      rcases ih _ mem with mem | mem
      · exact .inl (List.mem_cons_of_mem _ mem)
      · rcases mem_insert mem with rfl | mem
        · exact .inl List.mem_cons_self
        · exact .inr mem
  exact (fold entries [] mem).resolve_right List.not_mem_nil

namespace Value

variable {v part : Value} {items : List Value} {members : List (String × Value)} {x : Float}

/-- **A value has a part**: itself, or what one of its items or members has. -/
inductive Has : Value → Value → Prop
  | self (v : Value) : Has v v
  | item {items : List Value} {item part : Value} (mem : item ∈ items) (has : Has item part) :
    Has (.list items) part
  | member {members : List (String × Value)} {e : String × Value} {part : Value} (mem : e ∈ members)
    (has : Has e.2 part) : Has (.object members) part

theorem has_single (notList : v.kind ≠ .list) (notObject : v.kind ≠ .object) :
    v.Has part ↔ part = v := by
  constructor
  · intro has
    cases has with
    | self => rfl
    | item => exact absurd rfl notList
    | member => exact absurd rfl notObject
  · rintro rfl
    exact .self _

theorem has_list :
    (Value.list items).Has part ↔ part = .list items ∨ ∃ item ∈ items, item.Has part := by
  constructor
  · intro has
    cases has with
    | self => exact .inl rfl
    | item mem has => exact .inr ⟨_, mem, has⟩
  · rintro (rfl | ⟨item, mem, has⟩)
    · exact .self _
    · exact .item mem has

theorem has_object :
    (Value.object members).Has part ↔ part = .object members ∨ ∃ e ∈ members, e.2.Has part := by
  constructor
  · intro has
    cases has with
    | self => exact .inl rfl
    | member mem has => exact .inr ⟨_, mem, has⟩
  · rintro (rfl | ⟨e, mem, has⟩)
    · exact .self _
    · exact .member mem has

/-! ## Ordered values -/

/-- **The numbers in a value stand in order**: none of them is not a number. -/
def Ordered (v : Value) : Prop :=
  ∀ x, v.Has (.number x) → x.isNaN = false

theorem ordered_number : (Value.number x).Ordered ↔ x.isNaN = false := by
  constructor
  · exact fun ordered => ordered x (.self _)
  · intro number y has
    cases has
    exact number

theorem ordered_plain (notNumber : v.kind ≠ .number) (notList : v.kind ≠ .list)
    (notObject : v.kind ≠ .object) : v.Ordered := by
  intro x has
  cases (has_single notList notObject).mp has
  exact absurd rfl notNumber

theorem ordered_list : (Value.list items).Ordered ↔ ∀ item ∈ items, item.Ordered := by
  constructor
  · exact fun ordered item mem x has => ordered x (.item mem has)
  · intro each x has
    rcases has_list.mp has with eq | ⟨item, mem, has⟩
    · cases eq
    · exact each item mem x has

theorem ordered_object : (Value.object members).Ordered ↔ ∀ e ∈ members, e.2.Ordered := by
  constructor
  · exact fun ordered e mem x has => ordered x (.member mem has)
  · intro each x has
    rcases has_object.mp has with eq | ⟨e, mem, has⟩
    · cases eq
    · exact each e mem x has

mutual
/-- Putting members in order brings in no number. -/
theorem ordered_canonical : (v : Value) → v.Ordered → v.canonical.Ordered
  | .null, h | .bool _, h | .number _, h | .text _, h => h
  | .list items, h => ordered_list.mpr (ordered_canonicalItems items (ordered_list.mp h))
  | .object members, h => ordered_object.mpr fun e mem =>
    ordered_canonicalMembers members (ordered_object.mp h) e (Keyed.mem_of_mem_ofList mem)
termination_by structural v => v
theorem ordered_canonicalItems : (items : List Value) → (∀ item ∈ items, item.Ordered) →
    ∀ item ∈ canonicalItems items, item.Ordered
  | [], _ => List.forall_mem_nil _
  | item :: items, h =>
    have ⟨first, rest⟩ := List.forall_mem_cons.mp h
    List.forall_mem_cons.mpr ⟨ordered_canonical item first, ordered_canonicalItems items rest⟩
termination_by structural items => items
theorem ordered_canonicalMembers : (members : List (String × Value)) →
    (∀ e ∈ members, e.2.Ordered) → ∀ e ∈ canonicalMembers members, e.2.Ordered
  | [], _ => List.forall_mem_nil _
  | (_, value) :: members, h =>
    have ⟨first, rest⟩ := List.forall_mem_cons.mp h
    List.forall_mem_cons.mpr ⟨ordered_canonical value first, ordered_canonicalMembers members rest⟩
termination_by structural members => members
end

end Value

/-! ## Ordered attributes -/

namespace Attributes

/-- The numbers in the values of a map stand in order. -/
def Ordered (a : Attributes) : Prop :=
  ∀ e ∈ a.entries, e.2.Ordered

theorem ordered_empty : empty.Ordered :=
  List.forall_mem_nil _

theorem ordered_ofList {entries : List (String × Value)} (h : ∀ e ∈ entries, e.2.Ordered) :
    (ofList entries).Ordered := by
  intro e mem
  rw [ofList, insertAll_entries] at mem
  exact Value.ordered_canonicalMembers entries h e (Keyed.mem_of_mem_ofList mem)

end Attributes

end Escalation
