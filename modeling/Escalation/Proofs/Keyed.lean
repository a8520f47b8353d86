import Escalation.Keyed
import Mathlib.Data.List.Sort

/-!
# Maps are determined by what they hold

Two ascending lists in which every name finds the same value are the same list (`ext_of_find?`), so
a map may be compared name by name. Insertion changes what one name finds (`find?_insert`), and the
map of a list of entries finds what the list does if each name stands in it once
(`find?_ofList`). So the order in which entries were inserted leaves no trace.
-/

namespace Escalation.Keyed

variable {α : Type}

/-- A value that is found stands in the list under its name. -/
theorem mem_of_find? {name : String} {value : α} :
    ∀ {entries : List (String × α)}, find? name entries = some value → (name, value) ∈ entries
  | [], h => by cases h
  | (n, v) :: entries, h => by
    unfold find? at h
    split at h
    · next eq =>
      cases h
      exact eq ▸ List.mem_cons_self
    · exact List.mem_cons_of_mem _ (mem_of_find? h)

/-- In an ascending list an entry is found under its name: no other entry has that name. -/
theorem find?_of_mem {name : String} {value : α} :
    ∀ {entries : List (String × α)}, Ascending entries → (name, value) ∈ entries →
      find? name entries = some value
  | [], _, h => by cases h
  | (n, v) :: entries, asc, h => by
    obtain ⟨before, tail⟩ := List.pairwise_cons.mp asc
    rcases List.mem_cons.mp h with eq | h
    · cases eq
      exact if_pos rfl
    · have lt : n < name := before _ h
      have ne : n ≠ name := fun eq => String.lt_irrefl name (eq ▸ lt)
      rw [find?, if_neg ne]
      exact find?_of_mem tail h

/-- An entry is in an ascending list exactly when it is found there. -/
theorem mem_iff_find? {entries : List (String × α)} (asc : Ascending entries) {e : String × α} :
    e ∈ entries ↔ find? e.1 entries = some e.2 :=
  ⟨fun h => find?_of_mem asc h, fun h => mem_of_find? h⟩

/-- **An ascending list is determined by what its names find.** -/
theorem ext_of_find? {a b : List (String × α)} (ha : Ascending a) (hb : Ascending b)
    (h : ∀ name, find? name a = find? name b) : a = b := by
  have : Std.Irrefl fun x y : String × α => x.1 < y.1 := ⟨fun x => String.lt_irrefl x.1⟩
  have : Std.Antisymm fun x y : String × α => x.1 < y.1 :=
    ⟨fun _ _ lt gt => absurd (String.lt_trans lt gt) (String.lt_irrefl _)⟩
  refine List.Pairwise.eq_of_mem_iff ha hb fun e => ?_
  rw [mem_iff_find? ha, mem_iff_find? hb, h]

/-! ## Insertion -/

/-- A name finds the value that was inserted under it, and every other name what it found. -/
theorem find?_insert (name : String) (value : α) (other : String) :
    ∀ entries : List (String × α), find? other (insert name value entries) =
      if name = other then some value else find? other entries
  | [] => rfl
  | (n, v) :: entries => by
    unfold insert
    split
    · rfl
    · split
      · next eq =>
        subst eq
        simp only [find?]
        split <;> rfl
      · next ne =>
        simp only [find?, find?_insert name value other entries]
        by_cases found : n = other
        · rw [if_pos found, if_pos found, if_neg fun eq => ne (found.trans eq.symm)]
        · rw [if_neg found, if_neg found]

/-- A name that does not stand in a list finds nothing there. -/
theorem find?_eq_none {name : String} {entries : List (String × α)}
    (h : name ∉ entries.map Prod.fst) : find? name entries = none := by
  cases found : find? name entries with
  | none => rfl
  | some value => exact absurd (List.mem_map.mpr ⟨_, mem_of_find? found, rfl⟩) h

theorem find?_foldl_insert (name : String) {es : List (String × α)}
    (distinct : (es.map Prod.fst).Nodup) : ∀ map : List (String × α),
    find? name (es.foldl (fun map e => insert e.1 e.2 map) map) =
      (find? name es).or (find? name map) := by
  induction es with
  | nil => exact fun _ => rfl
  | cons e es ih =>
    intro map
    obtain ⟨fresh, rest⟩ := List.nodup_cons.mp distinct
    rw [List.foldl_cons, ih rest, find?_insert, find?]
    by_cases eq : e.1 = name
    · rw [if_pos eq, if_pos eq, find?_eq_none (eq ▸ fresh)]
      rfl
    · rw [if_neg eq, if_neg eq]

/-- **The map of entries with different names finds what the entries do**, in whatever order they
are inserted. -/
theorem find?_ofList {es : List (String × α)} (distinct : (es.map Prod.fst).Nodup)
    (name : String) : find? name (ofList es) = find? name es := by
  rw [ofList, find?_foldl_insert name distinct]
  exact Option.or_none

end Escalation.Keyed
