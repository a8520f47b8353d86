import Escalation.Proofs.Cache.Eviction

/-!
# What a cache holds

A lookup that succeeds gives an outcome that is stored under the key. No operation makes entries of
its own: looking up and making room only drop some, and storing adds the one it is given. So an
entry is traced back to the call that stored it, whatever was evicted and whatever expired in the
meantime. None of the operations changes the settings.

Which entries are dropped, and when, is not the matter of this module.
-/

namespace Escalation.Cache

variable {c : Cache} {now : Nat} {key : String}

/-! ## Looking up -/

/-- An outcome that is found was stored under the key. -/
theorem mem_of_get {o : Outcome} (h : (c.get now key).1 = some o) :
    ∃ e ∈ c.entries, e.key = key ∧ e.outcome = o := by
  unfold get at h
  cases found : c.entry? key with
  | none => simp only [found, reduceCtorEq] at h
  | some e =>
    simp only [found] at h
    split at h
    · cases h
      have same : (e.key == key) = true := by simpa using List.find?_some found
      exact ⟨e, List.mem_of_find?_eq_some found, beq_iff_eq.mp same, rfl⟩
    · cases h

/-- Looking up makes no entry. -/
theorem mem_of_mem_get {e : CacheEntry} (h : e ∈ (c.get now key).2.entries) : e ∈ c.entries := by
  unfold get at h
  split at h
  · split at h
    · exact h
    · exact (List.mem_filter.mp h).1
  · exact h

theorem get_settings : (c.get now key).2.settings = c.settings := by
  unfold get
  split
  · split <;> rfl
  · rfl

/-! ## Storing -/

/-- Making room makes no entry. -/
theorem mem_of_mem_makeRoom {e : CacheEntry} (h : e ∈ (c.makeRoom now key).entries) :
    e ∈ c.entries := by
  unfold makeRoom at h
  simp only at h
  split at h
  · exact h
  · exact (List.mem_filter.mp ((evict_sublist _ _ _).subset h)).1

theorem makeRoom_settings : (c.makeRoom now key).settings = c.settings := by
  unfold makeRoom
  simp only
  split <;> rfl

/-- Whether an outcome stored now has its time within the clock. -/
def Stores (c : Cache) (now : Nat) : Prop :=
  now + 1000000000 * c.settings.ttlSeconds < lastInstant

/-- An outcome is stored exactly if its time ends within the clock. -/
theorem put_isSome {o : Outcome} : (c.put now key o).isSome = true ↔ c.Stores now := by
  unfold put Stores
  simp only
  split
  · next fits => exact ⟨fun _ => fits, fun _ => rfl⟩
  · next fits => exact ⟨nofun, fun h => absurd h fits⟩

/-- Storing adds the entry it is given, and no other. -/
theorem mem_of_mem_put {o : Outcome} {next : Cache} (h : c.put now key o = some next)
    {e : CacheEntry} (he : e ∈ next.entries) : e ∈ c.entries ∨ e.key = key ∧ e.outcome = o := by
  unfold put at h
  simp only at h
  split at h
  · cases h
    rcases List.mem_append.mp he with he | he
    · exact .inl (mem_of_mem_makeRoom (List.mem_filter.mp he).1)
    · rw [List.mem_singleton.mp he]
      exact .inr ⟨rfl, rfl⟩
  · cases h

theorem put_settings {o : Outcome} {next : Cache} (h : c.put now key o = some next) :
    next.settings = c.settings := by
  unfold put at h
  simp only at h
  split at h
  · cases h
    exact makeRoom_settings
  · cases h

end Escalation.Cache
