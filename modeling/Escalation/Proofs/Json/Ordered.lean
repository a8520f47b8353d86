import Escalation.Json.Members
import Escalation.Json.Reader
import Escalation.Proofs.Number.Reader

/-!
# Numbers in documents

JSON has no word for what is not a number, and a decimal that is too great is refused. So the
numbers in whatever is read of JSON text stand in order (`ordered_read?`), however deep they are, and
they are the same numbers after the last of several members has been chosen (`ordered_lastWins`).
Documents of another syntax may hold anything.

The readers of values, items and members call each other with less fuel, so the law is proved of all
three by induction on the fuel (`ReadsOrdered`).
-/

namespace Escalation.Json

/-- **The numbers in a document stand in order**: none of them is not a number. -/
inductive Ordered : Json → Prop
  | null : Ordered .null
  | bool (b : Bool) : Ordered (.bool b)
  | integer (n : Int) : Ordered (.number (.integer n))
  | real {x : Float} (number : x.isNaN = false) : Ordered (.number (.real x))
  | text (s : String) : Ordered (.text s)
  | list {items : List Json} (each : ∀ item ∈ items, Ordered item) : Ordered (.list items)
  | object {members : List (String × Json)} (each : ∀ m ∈ members, Ordered m.2) :
    Ordered (.object members)
  | foreign : Ordered .foreign

/-! ## Reading -/

theorem isNaN_decimal? {negative : Bool} {coefficient : Nat} {exponent : Int} {x : Float}
    (read : decimal? negative coefficient exponent = some x) : x.isNaN = false := by
  unfold decimal? at read
  exact Escalation.Number.isNaN_of_isFinite (Option.filter_eq_some_iff.mp read).2

theorem ordered_number? {negative : Bool} {cs rest : List Char} {n : Number}
    (read : number? negative cs = some (n, rest)) : Ordered (.number n) := by
  unfold number? at read
  simp only [Option.bind_eq_bind, Option.bind_eq_some_iff] at read
  obtain ⟨⟨whole, afterWhole⟩, -, ⟨places, afterPlaces⟩, -, ⟨exponent, afterExponent⟩, -, read⟩ :=
    read
  split at read
  · cases read
    exact .integer _
  · split at read
    · cases read
      exact .integer _
    · obtain ⟨x, decimal, eq⟩ := Option.map_eq_some_iff.mp read
      cases eq
      exact .real (isNaN_decimal? decimal)

theorem ordered_word? {word cs rest : List Char} {json result : Json} (ordered : json.Ordered)
    (read : word? word json cs = some (result, rest)) : result.Ordered := by
  unfold word? at read
  split at read
  · cases read
    exact ordered
  · cases read

/-- What the readers give with that much fuel is ordered, if what they have read already is. -/
structure ReadsOrdered (fuel : Nat) : Prop where
  value : ∀ {depth : Nat} {cs rest : List Char} {json : Json},
    value? fuel depth cs = some (json, rest) → json.Ordered
  items : ∀ {depth : Nat} {before items : List Json} {cs rest : List Char},
    (∀ item ∈ before, item.Ordered) → valueItems? fuel depth before cs = some (items, rest) →
      ∀ item ∈ items, item.Ordered
  members : ∀ {depth : Nat} {before members : List (String × Json)} {cs rest : List Char},
    (∀ m ∈ before, m.2.Ordered) → valueMembers? fuel depth before cs = some (members, rest) →
      ∀ m ∈ members, m.2.Ordered

variable {fuel depth : Nat} {cs rest : List Char}

theorem ReadsOrdered.value_step (h : ReadsOrdered fuel) {json : Json}
    (read : value? (fuel + 1) depth cs = some (json, rest)) : json.Ordered := by
  unfold value? at read
  split at read
  · cases read
  · obtain ⟨⟨s, after⟩, -, eq⟩ := Option.map_eq_some_iff.mp read
    cases eq
    exact .text s
  · split at read
    · cases read
    · split at read
      · cases read
        exact .list (List.forall_mem_nil _)
      · obtain ⟨⟨items, after⟩, items_read, eq⟩ := Option.map_eq_some_iff.mp read
        cases eq
        exact .list (h.items (List.forall_mem_nil _) items_read)
  · split at read
    · cases read
    · split at read
      · cases read
        exact .object (List.forall_mem_nil _)
      · obtain ⟨⟨members, after⟩, members_read, eq⟩ := Option.map_eq_some_iff.mp read
        cases eq
        exact .object (h.members (List.forall_mem_nil _) members_read)
  · obtain ⟨⟨n, after⟩, number_read, eq⟩ := Option.map_eq_some_iff.mp read
    cases eq
    exact ordered_number? number_read
  · exact ordered_word? (.bool true) read
  · exact ordered_word? (.bool false) read
  · exact ordered_word? .null read
  · obtain ⟨⟨n, after⟩, number_read, eq⟩ := Option.map_eq_some_iff.mp read
    cases eq
    exact ordered_number? number_read

theorem ReadsOrdered.items_step (h : ReadsOrdered fuel) {before items : List Json}
    (ordered : ∀ item ∈ before, item.Ordered)
    (read : valueItems? (fuel + 1) depth before cs = some (items, rest)) :
    ∀ item ∈ items, item.Ordered := by
  unfold valueItems? at read
  obtain ⟨⟨item, after⟩, item_read, read⟩ := Option.bind_eq_some_iff.mp read
  have more : ∀ i ∈ item :: before, i.Ordered :=
    List.forall_mem_cons.mpr ⟨h.value item_read, ordered⟩
  dsimp only at read
  split at read
  · cases read
    exact fun i mem => more i (List.mem_reverse.mp mem)
  · exact h.items more read
  · cases read

theorem ReadsOrdered.members_step (h : ReadsOrdered fuel) {before members : List (String × Json)}
    (ordered : ∀ m ∈ before, m.2.Ordered)
    (read : valueMembers? (fuel + 1) depth before cs = some (members, rest)) :
    ∀ m ∈ members, m.2.Ordered := by
  unfold valueMembers? at read
  split at read
  · obtain ⟨⟨name, afterName⟩, -, read⟩ := Option.bind_eq_some_iff.mp read
    dsimp only at read
    split at read
    · obtain ⟨⟨value, after⟩, value_read, read⟩ := Option.bind_eq_some_iff.mp read
      have more : ∀ m ∈ (name, value) :: before, m.2.Ordered :=
        List.forall_mem_cons.mpr ⟨h.value value_read, ordered⟩
      dsimp only at read
      split at read
      · cases read
        exact fun m mem => more m (List.mem_reverse.mp mem)
      · exact h.members more read
      · cases read
    · cases read
  · cases read

theorem readsOrdered (fuel : Nat) : ReadsOrdered fuel := by
  induction fuel with
  | zero => exact ⟨nofun, fun _ => nofun, fun _ => nofun⟩
  | succ fuel ih => exact ⟨ih.value_step, ih.items_step, ih.members_step⟩

/-- **The numbers in what is read of a text stand in order.** -/
theorem ordered_read? {text : String} {json : Json} (read : read? text = some json) :
    json.Ordered := by
  unfold read? readChars? at read
  split at read
  · next found =>
    split at read
    · cases read
      exact (readsOrdered _).value found
    · cases read
  · cases read

/-! ## The last of several members -/

theorem ordered_setMember {name : String} {value : Json} {members : List (String × Json)}
    (ordered : value.Ordered) (each : ∀ m ∈ members, m.2.Ordered) :
    ∀ m ∈ setMember name value members, m.2.Ordered := by
  refine List.forall_mem_append.mpr ⟨fun m mem => each m (List.mem_filter.mp mem).1, ?_⟩
  exact List.forall_mem_singleton.mpr ordered

mutual
/-- Choosing the last member of each name brings in no number. -/
theorem ordered_lastWins : (json : Json) → json.Ordered → json.lastWins.Ordered
  | .null, h | .bool _, h | .number _, h | .text _, h | .foreign, h => h
  | .list items, .list each => .list (ordered_lastWinsItems items each)
  | .object members, .object each =>
    .object (ordered_lastWinsMembers members [] (List.forall_mem_nil _) each)
termination_by structural json => json
theorem ordered_lastWinsItems : (items : List Json) → (∀ item ∈ items, item.Ordered) →
    ∀ item ∈ lastWinsItems items, item.Ordered
  | [], _ => List.forall_mem_nil _
  | item :: items, each =>
    have ⟨first, rest⟩ := List.forall_mem_cons.mp each
    List.forall_mem_cons.mpr ⟨ordered_lastWins item first, ordered_lastWinsItems items rest⟩
termination_by structural items => items
theorem ordered_lastWinsMembers : (members done : List (String × Json)) →
    (∀ m ∈ done, m.2.Ordered) → (∀ m ∈ members, m.2.Ordered) →
      ∀ m ∈ lastWinsMembers done members, m.2.Ordered
  | [], _, kept, _ => kept
  | (_, value) :: members, _, kept, each =>
    have ⟨first, rest⟩ := List.forall_mem_cons.mp each
    ordered_lastWinsMembers members _ (ordered_setMember (ordered_lastWins value first) kept) rest
termination_by structural members => members
end

end Escalation.Json
