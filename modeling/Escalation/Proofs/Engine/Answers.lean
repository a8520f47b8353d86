import Escalation.Proofs.Engine.Transparency
import Escalation.Proofs.Registry.Refinement

/-!
# What an evaluation answers

An evaluation answers with the walk over the present rules, or with an outcome that was kept from
an earlier one, or with nothing, where it finds none and cannot store one. The last is decided by
the settings of the cache and the instant alone, at any point of a run (`run_stores_iff`).

Whatever is answered has been the walk of some moment of the run (`run_evaluate_origin`). If the
digest tells the inputs of the run apart it is the walk of this moment (`run_answers`).

Two engines may have come to the same rules on different ways, with other versions, other numbers
and other caches. They stay `Alike` under every step that both take, and their walks differ in the
version only (`Alike.walk`).
-/

namespace Escalation

/-- The version is put on an outcome and plays no part in it. -/
theorem RuleSet.walkRules_withVersion {scope : Scope} (thoroughness : Thoroughness)
    (version other : UInt64) (rules : List Rule) :
    walkRules thoroughness scope version rules =
      { walkRules thoroughness scope other rules with version } := by
  induction rules with
  | nil => rfl
  | cons rule rules ih =>
    unfold walkRules
    rw [ih]
    simp only
    split <;> split <;> rfl

/-- The mark that an outcome was kept is not the walk's. -/
theorem RuleSet.walkRules_cacheHit {scope : Scope} (thoroughness : Thoroughness) (version : UInt64)
    (rules : List Rule) : (walkRules thoroughness scope version rules).cacheHit = false := by
  induction rules with
  | nil => rfl
  | cons rule rules ih =>
    unfold walkRules
    simp only
    split <;> split <;> first | rfl | exact ih

namespace Engine

variable {e f : Engine} {steps : List Step} {now : Nat} {event : Event} {o : Outcome}

/-! ## One evaluation -/

/-- What is stored under a key that is found was stored for an event with this key. -/
theorem evaluate_of_hit (hit : ¬ e.Misses now event) : ∃ cache ∈ e.cache, ∃ entry ∈ cache.entries,
    entry.key = e.key event ∧
      (e.evaluate now event).1 = .ok { entry.outcome with cacheHit := true } := by
  unfold Misses at hit
  push Not at hit
  obtain ⟨cache, present, found⟩ := hit
  rcases evaluate_cases present now event with ⟨kept, get, eq⟩ | ⟨none, -⟩ | ⟨none, -⟩
  · obtain ⟨entry, mem, key, rfl⟩ := Cache.mem_of_get get
    exact ⟨cache, present, entry, mem, key, congrArg Prod.fst eq⟩
  · exact absurd none found
  · exact absurd none found

/-- **There is no answer exactly where none is kept and none can be stored.** -/
theorem evaluate_fails_iff : (e.evaluate now event).1 = .error .beyondClock ↔
    e.Misses now event ∧ ¬ e.Stores now := by
  constructor
  · intro failed
    have miss : e.Misses now event := by
      apply Classical.byContradiction
      intro hit
      obtain ⟨_, -, _, -, -, eq⟩ := evaluate_of_hit hit
      cases failed.symm.trans eq
    refine ⟨miss, fun stores => ?_⟩
    cases failed.symm.trans ((evaluate_miss miss).1 stores)
  · rintro ⟨miss, full⟩
    exact (evaluate_miss miss).2 full

/-- **An evaluation answers with an outcome**, kept or not; or it has none that is kept and cannot
store it, and then it answers with nothing. -/
def Answers (e : Engine) (now : Nat) (event : Event) (o : Outcome) : Prop :=
  (∃ hit, (e.evaluate now event).1 = .ok { o with cacheHit := hit }) ∨
    e.Misses now event ∧ ¬ e.Stores now ∧ (e.evaluate now event).1 = .error .beyondClock

/-- Where nothing is kept the answer is the walk. -/
theorem answers_of_miss (miss : e.Misses now event) : e.Answers now event (e.walk event) := by
  by_cases stores : e.Stores now
  · exact .inl ⟨_, (evaluate_miss miss).1 stores⟩
  · exact .inr ⟨miss, stores, (evaluate_miss miss).2 stores⟩

/-! ## Evaluations of a run -/

section Run

variable {settings : Option CacheSettings} (empty : e.cache = settings.map .ofSettings)

include empty

/-- Whether an outcome can be stored does not depend on what the run did. -/
theorem run_stores_iff (steps : List Step) (now : Nat) : (e.run steps).Stores now ↔
    ∀ s ∈ settings, now + 1000000000 * s.ttlSeconds < lastInstant := by
  cases settings with
  | none =>
    have uncached : (e.run steps).cache = none := run_uncached empty steps
    refine ⟨nofun, fun _ cache present => ?_⟩
    rw [uncached] at present
    cases present
  | some s =>
    obtain ⟨cache, present, kept, -⟩ := run_stored empty steps
    constructor
    · rintro stores _ ⟨⟩
      have fits := stores cache present
      rwa [Cache.Stores, kept] at fits
    · intro fits other same
      cases present.symm.trans same
      rw [Cache.Stores, kept]
      exact fits s rfl

/-- An outcome that is found is the answer of an evaluation of the run that found none, under the key
that the event has now. -/
theorem run_evaluate_hit (hit : ¬ (e.run steps).Misses now event) : ∃ entry,
    e.Kept steps entry ∧ entry.key = (e.run steps).key event ∧
      ((e.run steps).evaluate now event).1 = .ok { entry.outcome with cacheHit := true } := by
  obtain ⟨cache, present, entry, mem, key, eq⟩ := evaluate_of_hit hit
  cases settings with
  | none =>
    rw [run_uncached empty steps] at present
    cases present
  | some s =>
    obtain ⟨own, same, -, kept⟩ := run_keeps empty steps
    cases same.symm.trans present
    exact ⟨entry, kept entry mem, key, eq⟩

/-- **Whatever is answered was the walk of a moment of the run.** -/
theorem run_evaluate_origin (answer : ((e.run steps).evaluate now event).1 = .ok o) :
    ∃ before after other hit, before ++ after = steps ∧
      o = { (e.run before).walk other with cacheHit := hit } := by
  by_cases miss : (e.run steps).Misses now event
  · rcases answers_of_miss miss with ⟨hit, eq⟩ | ⟨-, -, eq⟩
    · cases answer.symm.trans eq
      exact ⟨steps, [], event, hit, List.append_nil steps, rfl⟩
    · cases answer.symm.trans eq
  · obtain ⟨entry, kept, -, eq⟩ := run_evaluate_hit empty miss
    obtain ⟨before, past, other, after, rfl, -, outcome⟩ := kept.stored
    cases answer.symm.trans eq
    exact ⟨before, _, other, true, rfl, by rw [outcome]⟩

/-- **An evaluation answers with the walk over the present rules**, if the digest tells the inputs
of the run apart. -/
theorem run_answers (few : (changes steps).length < 2 ^ 64)
    (distinct : Distinguishes e.digest (e.inputs (steps ++ [.evaluate now event]))) :
    (e.run steps).Answers now event ((e.run steps).walk event) := by
  by_cases miss : (e.run steps).Misses now event
  · exact answers_of_miss miss
  · obtain ⟨entry, kept, key, eq⟩ := run_evaluate_hit empty miss
    rw [walk_of_stored few distinct kept.stored key] at eq
    exact .inl ⟨true, eq⟩

end Run

/-! ## Engines with the same rules -/

/-- Two engines have the same rules, registered in the same order, and read the same time. -/
structure Alike (e f : Engine) : Prop where
  registered : ∃ rules, e.registry.Registers rules ∧ f.registry.Registers rules
  clock : e.clock = f.clock
  offset : e.offset = f.offset

/-- **Engines that are alike are so after every step that both take.** -/
theorem Alike.step (h : e.Alike f) (s : Step) : (e.step s).Alike (f.step s) := by
  cases s with
  | change c =>
    obtain ⟨rules, left, right⟩ := h.registered
    simp only [Engine.step, change_eq]
    exact ⟨⟨_, left.after c, right.after c⟩, h.clock, h.offset⟩
  | setClock clock => exact ⟨h.registered, rfl, h.offset⟩
  | clearCache => exact ⟨h.registered, h.clock, h.offset⟩
  | evaluate now event =>
    have left := evaluate_agree e now event
    have right := evaluate_agree f now event
    refine ⟨?_, left.clock.trans (h.clock.trans right.clock.symm),
      left.offset.trans (h.offset.trans right.offset.symm)⟩
    rw [Engine.step, Engine.step, left.registry, right.registry]
    exact h.registered

theorem Alike.run (h : e.Alike f) (steps : List Step) : (e.run steps).Alike (f.run steps) := by
  induction steps generalizing e f with
  | nil => exact h
  | cons s steps ih => exact ih (h.step s)

/-- They have the same rules in the order of evaluation. -/
theorem Alike.rules (h : e.Alike f) : e.registry.active.rules = f.registry.active.rules := by
  obtain ⟨rules, left, right⟩ := h.registered
  rw [left.order, right.order]

/-- **Their walks differ in the version only.** -/
theorem Alike.walk (h : e.Alike f) (event : Event) :
    e.walk event = { f.walk event with version := e.registry.version } := by
  have scope : e.scope event = f.scope event := by
    simp only [Engine.scope, timeOfDay, h.clock, h.offset]
  rw [Engine.walk, Engine.walk, RuleSet.walk, RuleSet.walk, scope, h.rules]
  exact RuleSet.walkRules_withVersion .fast _ _ _

end Engine

end Escalation
