import Escalation.Proofs.Cache.Contents

/-!
# What a cache counts

A lookup counts as a hit or as a miss, and storing counts as an insertion; making room and clearing
count as neither. Which entries are there does not matter for this, so the laws hold of full caches
and of expired entries as well.
-/

namespace Escalation.Cache

variable {c next : Cache} {now : Nat} {key : String} {o : Outcome}

/-- A lookup that finds an outcome counts as a hit. -/
theorem get_stats_of_some (h : (c.get now key).1 = some o) :
    (c.get now key).2.stats = { c.stats with hits := c.stats.hits + 1 } := by
  unfold get at h ⊢
  split
  · next found =>
    simp only [found] at h
    split at h
    · next live => rw [if_pos live]
    · cases h
  · next found =>
    simp only [found, reduceCtorEq] at h

/-- A lookup that finds none counts as a miss, and whether the outcome had expired is counted
beside. -/
theorem get_stats_of_none (h : (c.get now key).1 = none) :
    (c.get now key).2.stats.hits = c.stats.hits ∧
      (c.get now key).2.stats.misses = c.stats.misses + 1 ∧
      (c.get now key).2.stats.inserts = c.stats.inserts := by
  unfold get at h ⊢
  split
  · next found =>
    simp only [found] at h
    split at h
    · cases h
    · next expired =>
      rw [if_neg expired]
      exact ⟨rfl, rfl, rfl⟩
  · exact ⟨rfl, rfl, rfl⟩

/-- Making room counts evictions only. -/
theorem makeRoom_stats (c : Cache) (now : Nat) (key : String) :
    (c.makeRoom now key).stats.hits = c.stats.hits ∧
      (c.makeRoom now key).stats.misses = c.stats.misses ∧
      (c.makeRoom now key).stats.inserts = c.stats.inserts := by
  unfold makeRoom
  simp only
  split <;> exact ⟨rfl, rfl, rfl⟩

/-- Storing counts as an insertion. -/
theorem put_stats (h : c.put now key o = some next) : next.stats.hits = c.stats.hits ∧
    next.stats.misses = c.stats.misses ∧ next.stats.inserts = c.stats.inserts + 1 := by
  obtain ⟨hits, misses, inserts⟩ := makeRoom_stats c now key
  unfold put at h
  simp only at h
  split at h
  · cases h
    exact ⟨hits, misses, congrArg (· + 1) inserts⟩
  · cases h

end Escalation.Cache
