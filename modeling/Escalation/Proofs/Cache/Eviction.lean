import Escalation.Cache
import Mathlib.Data.List.Nodup

/-!
# What is evicted

A full cache evicts by searching for the entry stored at the least instant and removing it, until
there is room (`evict`). The laws here are about this loop on its own, by induction on its rounds:
what is left is a part of the entries (`evict_sublist`) that leaves room for one more
(`length_evict_lt`), every round is counted (`length_evict`), and nothing goes before what was stored
earlier (`evict_oldest`).

Where the entries stand in the order of their instants and no two of these are the same, the least
instant is that of the first entry, so the loop drops as many as it has to from the front
(`evict_eq_drop`). Keys are different throughout, as they are in every cache of a run.
-/

namespace Escalation.Cache

variable {max evicted : Nat} {key : String} {entries : List CacheEntry}

/-! ## Entries under different keys -/

theorem without_keys (distinct : (entries.map (·.key)).Nodup) :
    (without key entries).map (·.key) = (entries.map (·.key)).erase key := by
  rw [distinct.erase_eq_filter, List.filter_map]
  rfl

theorem without_append (entries others : List CacheEntry) :
    without key (entries ++ others) = without key entries ++ without key others :=
  List.filter_append _ _

theorem without_of_absent (absent : key ∉ entries.map (·.key)) : without key entries = entries := by
  refine List.filter_eq_self.mpr fun e mem => bne_iff_ne.mpr fun same => absent ?_
  exact same ▸ List.mem_map_of_mem mem

/-- Under a key that is held there is one entry. -/
theorem length_without (distinct : (entries.map (·.key)).Nodup)
    (held : key ∈ entries.map (·.key)) : (without key entries).length + 1 = entries.length := by
  have pos := List.length_pos_of_mem held
  have erased := List.length_erase_of_mem held
  rw [← without_keys distinct, List.length_map, List.length_map] at erased
  rw [List.length_map] at pos
  omega

/-- A key that is stored anew is held once. -/
theorem nodup_without_snoc (distinct : (entries.map (·.key)).Nodup) (e : CacheEntry) :
    ((without e.key entries ++ [e]).map (·.key)).Nodup := by
  rw [List.map_append, without_keys distinct]
  refine (distinct.erase e.key).append (List.nodup_singleton e.key) ?_
  intro other mem same
  rw [List.mem_singleton.mp same] at mem
  exact distinct.not_mem_erase mem

theorem nodup_without (distinct : (entries.map (·.key)).Nodup) (key : String) :
    ((without key entries).map (·.key)).Nodup :=
  distinct.sublist (List.filter_sublist.map _)

/-! ## The loop -/

theorem nil_of_minOn? (none : entries.minOn? (·.inserted) = none) : entries = [] := by
  cases entries with
  | nil => rfl
  | cons first others => cases none

theorem evict_sublist (max : Nat) (entries : List CacheEntry) (evicted : Nat) :
    (evict max entries evicted).1.Sublist entries := by
  fun_induction evict max entries evicted with
  | case1 => exact List.Sublist.refl _
  | case2 _ _ _ _ _ ih => exact ih.trans List.filter_sublist
  | case3 => exact List.Sublist.refl _

/-- **There is room for one more** in what is left. -/
theorem length_evict_lt (bounded : max ≠ 0) : (evict max entries evicted).1.length < max := by
  fun_induction evict max entries evicted with
  | case1 _ _ room => exact room
  | case2 _ _ _ _ _ ih => exact ih
  | case3 entries _ _ none =>
    rw [nil_of_minOn? none]
    exact Nat.pos_of_ne_zero bounded

/-- **Every entry that goes is counted.** -/
theorem length_evict (distinct : (entries.map (·.key)).Nodup) :
    (evict max entries evicted).1.length + (evict max entries evicted).2 =
      entries.length + evicted := by
  fun_induction evict max entries evicted with
  | case1 => rfl
  | case2 entries evicted _ oldest found ih =>
    have held : oldest.key ∈ entries.map (·.key) := List.mem_map_of_mem (List.minOn?_mem found)
    have one := length_without distinct held
    rw [ih (nodup_without distinct _)]
    omega
  | case3 => rfl

theorem inserted_le {oldest e : CacheEntry} (found : entries.minOn? (·.inserted) = some oldest)
    (mem : e ∈ entries) : oldest.inserted ≤ e.inserted := by
  rw [← List.minOn_eq_of_minOn?_eq_some found]
  exact List.apply_minOn_le_of_mem (f := (·.inserted)) mem

/-- **What goes was stored no later than all that stays.** -/
theorem evict_oldest (distinct : (entries.map (·.key)).Nodup) {gone kept : CacheEntry}
    (mem : gone ∈ entries) (out : gone ∉ (evict max entries evicted).1)
    (left : kept ∈ (evict max entries evicted).1) : gone.inserted ≤ kept.inserted := by
  fun_induction evict max entries evicted with
  | case1 => exact absurd mem out
  | case2 entries evicted _ oldest found ih =>
    by_cases same : gone.key = oldest.key
    · have least : kept ∈ entries := ((evict_sublist _ _ _).trans List.filter_sublist).subset left
      rw [List.inj_on_of_nodup_map distinct mem (List.minOn?_mem found) same]
      exact inserted_le found least
    · exact ih (nodup_without distinct _) (List.mem_filter.mpr ⟨mem, bne_iff_ne.mpr same⟩) out left
  | case3 => exact absurd mem out

/-- **The first to go is the first in the list**, if the list is in the order of the instants. -/
theorem evict_eq_drop (bounded : max ≠ 0) (distinct : (entries.map (·.key)).Nodup)
    (ascending : entries.Pairwise (·.inserted < ·.inserted)) :
    (evict max entries evicted).1 = entries.drop (entries.length + 1 - max) := by
  fun_induction evict max entries evicted with
  | case1 entries _ room => rw [Nat.sub_eq_zero_of_le room, List.drop_zero]
  | case2 entries evicted full oldest found ih =>
    cases entries with
    | nil => exact absurd (Nat.pos_of_ne_zero bounded) full
    | cons first others =>
      obtain ⟨earlier, ascending⟩ := List.pairwise_cons.mp ascending
      obtain ⟨absent, distinct⟩ := List.nodup_cons.mp distinct
      have same : oldest = first := by
        rcases List.mem_cons.mp (List.minOn?_mem found) with same | mem
        · exact same
        · exact absurd (inserted_le found List.mem_cons_self) (Nat.not_le.mpr (earlier _ mem))
      have left : without oldest.key (first :: others) = others := by
        rw [same, without, List.filter_cons_of_neg (by simp)]
        exact without_of_absent absent
      have longer : (first :: others).length + 1 - max = others.length + 1 - max + 1 := by
        rw [List.length_cons] at full ⊢
        omega
      rw [left] at ih ⊢
      rw [ih distinct ascending, longer, List.drop_succ_cons]
  | case3 entries _ _ none =>
    rw [nil_of_minOn? none, List.drop_nil]

end Escalation.Cache
