import Escalation.Proofs.Cache.Contents

/-!
# A cache that drops nothing

While nothing expires and the number of outcomes is not bounded, a cache is a plain map from keys to
outcomes: a lookup finds an outcome exactly if one was stored under the key, and leaves the entries
as they are (`get_of_lasts`); storing under a new key adds one entry to those that there are
(`put_of_unbounded`).

That nothing expires before an instant is a matter of the entries (`LastsUntil`). It is kept by
storing anything that lasts as long.
-/

namespace Escalation.Cache

variable {c next : Cache} {now deadline : Nat} {key other : String} {o : Outcome}

/-- There is an entry under the key. -/
def Holds (c : Cache) (key : String) : Prop :=
  ∃ e ∈ c.entries, e.key = key

/-- No entry has been kept long enough before the deadline. -/
def LastsUntil (c : Cache) (deadline : Nat) : Prop :=
  ∀ e ∈ c.entries, deadline ≤ e.expires

theorem holds_iff : c.Holds key ↔ (c.entry? key).isSome = true := by
  simp only [Holds, entry?, List.find?_isSome, beq_iff_eq]

/-- **Before the deadline a lookup finds exactly what is held**, and drops nothing. -/
theorem get_of_lasts (lasts : c.LastsUntil deadline) (early : now < deadline) (key : String) :
    ((c.get now key).1.isSome = true ↔ c.Holds key) ∧
      (c.get now key).2.entries = c.entries := by
  rw [holds_iff, get]
  cases found : c.entry? key with
  | none => exact ⟨Iff.rfl, rfl⟩
  | some e =>
    have live : now < e.expires :=
      Nat.lt_of_lt_of_le early (lasts e (List.mem_of_find?_eq_some found))
    simp only [if_pos live, Option.isSome_some, and_self]

/-- **Without a bound, storing adds one entry** to what is held under other keys. -/
theorem put_of_unbounded (unbounded : c.settings.maxEntries = 0) (absent : ¬ c.Holds key)
    (h : c.put now key o = some next) :
    next.entries = c.entries ++ [⟨key, o, now, now + 1000000000 * c.settings.ttlSeconds⟩] := by
  have room : c.makeRoom now key = c := by
    simp only [makeRoom, unbounded, beq_self_eq_true, Bool.true_or, if_true]
  have others : without key c.entries = c.entries := by
    rw [without, List.filter_eq_self]
    exact fun e mem => bne_iff_ne.mpr fun same => absent ⟨e, mem, same⟩
  unfold put at h
  simp only [room, others] at h
  split at h
  · cases h
    rfl
  · cases h

theorem not_holds_nil (nothing : c.entries = []) : ¬ c.Holds key := by
  simp only [Holds, nothing, List.not_mem_nil, false_and, exists_false, not_false_eq_true]

theorem lastsUntil_nil (nothing : c.entries = []) : c.LastsUntil deadline := by
  rw [LastsUntil, nothing]
  exact List.forall_mem_nil _

theorem holds_snoc {entry : CacheEntry} (added : next.entries = c.entries ++ [entry]) :
    next.Holds other ↔ entry.key = other ∨ c.Holds other := by
  simp only [Holds, added, List.mem_append, List.mem_singleton, or_and_right, exists_or,
    exists_eq_left]
  exact or_comm

theorem lastsUntil_snoc {entry : CacheEntry} (added : next.entries = c.entries ++ [entry])
    (lasts : c.LastsUntil deadline) (late : deadline ≤ entry.expires) :
    next.LastsUntil deadline := by
  rw [LastsUntil, added, List.forall_mem_append]
  exact ⟨lasts, List.forall_mem_singleton.mpr late⟩

end Escalation.Cache
