import Escalation.Condition.Evaluate

/-!
# Patterns from a store

What a store holds under a key is what the key compiles to, by the type of the store. So a key
fetched from a store, whatever is in it, is the key compiled (`fetch_eq`), and a condition that is
evaluated with a store has the reading that it has without one (`evaluate_eq`). All this holds
however patterns are compiled.

An evaluation asks for one pattern at most, that of the condition's own operand
(`Condition.evaluateWith_congr`); so it does not matter what a store would give under other keys.
-/

namespace Escalation

namespace Condition

variable {compile other : PatternKey → Option Pattern} {c : Condition}

/-- A comparison compiles nothing but the condition's own pattern. -/
theorem testValue_congr (h : ∀ key ∈ c.patternKey?, compile key = other key) (value : Value) :
    c.testValue compile value = c.testValue other value := by
  unfold testValue
  split
  -- Only the operator on patterns compiles one.
  all_goals try rfl
  next s operator operand =>
    have own : c.patternKey? = some ⟨c.caseSensitive, s⟩ := by
      simp only [patternKey?, operator, operand]
    simp only [h _ own]

/-- **A reading depends on how the condition's own pattern is compiled**, and on no other. -/
theorem evaluateWith_congr (h : ∀ key ∈ c.patternKey?, compile key = other key) (scope : Scope) :
    c.evaluateWith compile scope = c.evaluateWith other scope := by
  simp only [evaluateWith, test, testValue_congr h]

/-- The pattern that an evaluation needs is the condition's own. -/
theorem patternKey?_of_needed {scope : Scope} {key : PatternKey}
    (h : c.patternNeeded? scope = some key) : c.patternKey? = some key := by
  unfold patternNeeded? at h
  split at h
  · next own _ _ =>
    split at h
    · exact own.trans h
    · cases h
  · cases h

end Condition

namespace PatternStore

open Condition (PatternKey)

variable {compile : PatternKey → Option Pattern}

theorem compile_of_find? {store : PatternStore compile} {key : PatternKey} {pattern : Pattern}
    (h : store.find? key = some pattern) : compile key = some pattern := by
  obtain ⟨e, found, rfl⟩ := Option.map_eq_some_iff.mp h
  have same : e.1 = key := beq_iff_eq.mp (by simpa using List.find?_some found)
  rw [← same]
  exact store.compiled e (List.mem_of_find?_eq_some found)

/-- **What is fetched under a key is what the key compiles to**, whatever is stored. -/
theorem fetch_eq (store : PatternStore compile) (key : PatternKey) :
    (store.fetch key).1 = compile key := by
  unfold fetch
  split
  · next pattern found => exact (compile_of_find? found).symm
  · split
    · next pattern compiled => exact compiled.symm
    · next failed => exact failed.symm

/-- **A store does not show in a reading.** -/
theorem evaluate_eq (store : PatternStore compile) (scope : Scope) (c : Condition) :
    (store.evaluate scope c).1 = c.evaluateWith compile scope := by
  unfold evaluate
  split
  · rfl
  · next key needed =>
    refine Condition.evaluateWith_congr (fun own mem => ?_) scope
    have same : own = key := by
      rw [Condition.patternKey?_of_needed needed] at mem
      exact (Option.some.inj mem).symm
    rw [same]
    exact store.fetch_eq key

end PatternStore

end Escalation
