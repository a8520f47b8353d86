import Escalation.Proofs.Cache.Preimage
import Escalation.Proofs.Engine.Run

/-!
# The cache does not show

An engine with a cache answers every evaluation of every run as the engine without one does, but for
the mark that an outcome was kept (`evaluate_transparent`).

An outcome that is found was stored earlier in the run under the same key (`run_stored`). Keys are
digests, and where the digests of a run's inputs tell these apart (`Distinguishes`), the earlier
input is the present one in all that is digested. That holds the version, and along a run the
version identifies the rules; it also holds all that these rules read. So the walk over the present
rules on the present event gives what was stored (`walk_eq_of_same`).

The premise is about the inputs of one run, not about all that there are: no digest of a fixed
length tells all inputs apart. It holds if no two inputs of the run collide as bytes and their
lengths fit (`distinguishes_of_bytes`). Nothing is assumed of the settings of the cache or of the instants,
save that the outcome of the last evaluation can be stored.
-/

namespace Escalation.Engine

open Fingerprint (Input)

/-- The engine with an empty cache. -/
def withCache (e : Engine) (settings : CacheSettings) : Engine :=
  { e with cache := some (.ofSettings settings) }

/-- The engine without a cache. -/
def withoutCache (e : Engine) : Engine :=
  { e with cache := none }

/-! ## What is digested -/

/-- What goes into the key of an event. -/
def input (e : Engine) (event : Event) : Input where
  version := e.registry.version
  scope := e.scope event
  minute := if e.registry.active.hasTimeConditions then some e.timeOfDay else none
  timestamps := e.registry.active.readsTimestamps

theorem key_eq (e : Engine) (event : Event) : e.key event = e.digest (e.input event).bytes :=
  rfl

theorem Agree.input {e f : Engine} (h : e.Agree f) (event : Event) :
    e.input event = f.input event := by
  simp only [Engine.input, scope, timeOfDay, h.registry, h.clock, h.offset]

/-- What goes into the keys of a run. -/
def inputs (e : Engine) : List Step → List Input
  | [] => []
  | .evaluate now event :: steps => e.input event :: inputs (e.step (.evaluate now event)) steps
  | s :: steps => inputs (e.step s) steps

theorem inputs_append (e : Engine) (before after : List Step) :
    e.inputs (before ++ after) = e.inputs before ++ (e.run before).inputs after := by
  induction before generalizing e with
  | nil => rfl
  | cons s before ih =>
    cases s with
    | evaluate now event => exact congrArg (e.input event :: ·) (ih _)
    | _ => exact ih _

theorem input_mem (e : Engine) (before after : List Step) (now : Nat) (event : Event) :
    (e.run before).input event ∈ e.inputs (before ++ .evaluate now event :: after) := by
  rw [inputs_append]
  exact List.mem_append_right _ List.mem_cons_self

/-- The digest tells these inputs apart. -/
def Distinguishes (digest : List UInt8 → String) (inputs : List Input) : Prop :=
  ∀ i ∈ inputs, ∀ j ∈ inputs, digest i.bytes = digest j.bytes → i.Same j

/-- A digest tells inputs apart if no two of them are different bytes with one digest, and their
lengths fit. -/
theorem distinguishes_of_bytes {digest : List UInt8 → String} {inputs : List Input}
    (sized : ∀ i ∈ inputs, i.Sized)
    (apart : ∀ i ∈ inputs, ∀ j ∈ inputs, digest i.bytes = digest j.bytes → i.bytes = j.bytes) :
    Distinguishes digest inputs :=
  fun i hi j hj eq => Input.same_of_bytes (sized i hi) (sized j hj) (apart i hi j hj eq)

/-- **Under the same rules, the same input has one outcome.** -/
theorem walk_eq_of_same {e f : Engine} {event other : Event} (registry : e.registry = f.registry)
    (h : (e.input event).Same (f.input other)) : e.walk event = f.walk other := by
  have clock : e.registry.active.hasTimeConditions = true → e.timeOfDay = f.timeOfDay := by
    intro timed
    have minute := h.minute
    simp only [input, ← registry, timed, if_true] at minute
    exact Option.some.inj minute
  unfold walk
  rw [← registry]
  exact e.registry.active.walk_congr h.scope clock .fast

/-! ## Answers with and without a cache -/

/-- A run that is at the version of an earlier moment has the rules of that moment. -/
theorem run_registry_of_version {e : Engine} {before after : List Step}
    (few : (changes (before ++ after)).length < 2 ^ 64)
    (h : (e.run before).registry.version = (e.run (before ++ after)).registry.version) :
    (e.run (before ++ after)).registry = (e.run before).registry := by
  simp only [run_append, run_registry] at h ⊢
  refine Registry.afterAll_eq_of_version (Nat.lt_of_le_of_lt ?_ few) h.symm
  simp only [changes, List.filterMap_append, List.length_append]
  exact Nat.le_add_left _ _

/-- An outcome that a run has stored is what the walk gives under the key now. -/
theorem walk_of_stored {e : Engine} {steps : List Step} {now : Nat} {event : Event}
    {entry : CacheEntry} (few : (changes steps).length < 2 ^ 64)
    (distinct : Distinguishes e.digest (e.inputs (steps ++ [.evaluate now event])))
    (stored : e.Stored steps entry) (key : entry.key = (e.run steps).key event) :
    entry.outcome = (e.run steps).walk event := by
  obtain ⟨before, past, other, after, rfl, key', outcome⟩ := stored
  have same : ((e.run before).input other).Same
      ((e.run (before ++ .evaluate past other :: after)).input event) := by
    refine distinct _ ?_ _ (input_mem e _ [] now event) ?_
    · rw [List.append_assoc]
      exact input_mem e before _ past other
    · rw [key', key_eq, key_eq, (run_digest e _).1, (run_digest e _).1] at key
      exact key
  exact outcome.trans (walk_eq_of_same (run_registry_of_version few same.version).symm same)

/-- **The cache does not show.** After any run, the engine with a cache is under the same rules and
the same clock as the one without, and an evaluation with the cache answers as one without, with an
outcome of the rules of that moment; only the mark that it was kept may differ. -/
theorem evaluate_transparent (e : Engine) (settings : CacheSettings) (steps : List Step)
    (now : Nat) (event : Event) (fits : now + 1000000000 * settings.ttlSeconds < lastInstant)
    (few : (changes steps).length < 2 ^ 64)
    (distinct : Distinguishes e.digest
      ((e.withCache settings).inputs (steps ++ [.evaluate now event]))) :
    ((e.withCache settings).run steps).Agree (e.withoutCache.run steps) ∧
      ∃ o hit,
        (((e.withCache settings).run steps).evaluate now event).1 =
          .ok { o with cacheHit := hit } ∧
        ((e.withoutCache.run steps).evaluate now event).1 = .ok o ∧
        o.version = (e.withoutCache.run steps).registry.version := by
  have agree : ((e.withCache settings).run steps).Agree (e.withoutCache.run steps) :=
    Agree.run ⟨rfl, rfl, rfl, rfl⟩
  have plain : ((e.withoutCache.run steps).evaluate now event).1 =
      .ok (((e.withCache settings).run steps).walk event) := by
    rw [evaluate_uncached (run_uncached rfl steps), agree.walk]
  have version : (((e.withCache settings).run steps).walk event).version =
      (e.withoutCache.run steps).registry.version :=
    (RuleSet.walkRules_version .fast _ _).trans (congrArg Registry.version agree.registry)
  refine ⟨agree, ?_⟩
  obtain ⟨cache, present, kept, stored⟩ := run_stored (e := e.withCache settings) rfl steps
  rcases evaluate_cases present now event with ⟨o, found, eq⟩ | ⟨-, -, _, -, eq⟩ | ⟨-, full, -⟩
  · obtain ⟨entry, mem, key, rfl⟩ := Cache.mem_of_get found
    refine ⟨_, true, ?_, plain, version⟩
    rw [eq, walk_of_stored few distinct (stored entry mem) key]
  · exact ⟨_, _, by rw [eq], plain, version⟩
  · rw [Cache.Stores, kept] at full
    exact absurd fits full

section Witness

/-- Two events that differ in the identity of the conversation are one input. -/
theorem tierEvent_same (e : Engine) (a b : String) :
    (e.input (tierEvent a "vip")).Same (e.input (tierEvent b "vip")) where
  version := rfl
  timestamps := rfl
  minute := rfl
  scope := (Scope.Agree.refl _ (e.scope (tierEvent b "vip"))).withRest_left
    ⟨a, none, .empty, false, none⟩

theorem tierEvents_inputs (e : Engine) :
    ∀ i ∈ e.inputs [.evaluate 0 (tierEvent "a" "vip"), .evaluate 1 (tierEvent "b" "vip")],
      ∃ id, i = e.input (tierEvent id "vip") := by
  intro i hi
  rcases List.mem_pair.mp hi with rfl | rfl
  · exact ⟨"a", rfl⟩
  · exact ⟨"b", (evaluate_agree e 0 _).input _⟩

/-- Of these two events nothing has to be told apart. -/
theorem tierEvents_distinguished (e : Engine) : Distinguishes e.digest
    (e.inputs [.evaluate 0 (tierEvent "a" "vip"), .evaluate 1 (tierEvent "b" "vip")]) := by
  intro i hi j hj _
  obtain ⟨a, rfl⟩ := tierEvents_inputs e i hi
  obtain ⟨b, rfl⟩ := tierEvents_inputs e j hj
  exact tierEvent_same e a b

/-- A rule is taken out and registered again, and an event is evaluated. -/
def tierSteps : List Step :=
  [.change (.remove "vip"), .change (.add tierRule), .evaluate 0 (tierEvent "a" "vip")]

/-- An event with the key of an earlier one is answered as without the cache. -/
theorem tierEngine_transparent :
    ((tierEngine.withCache {}).run tierSteps).Agree (tierEngine.withoutCache.run tierSteps) ∧
      ∃ o hit,
        (((tierEngine.withCache {}).run tierSteps).evaluate 1 (tierEvent "b" "vip")).1 =
          .ok { o with cacheHit := hit } ∧
        ((tierEngine.withoutCache.run tierSteps).evaluate 1 (tierEvent "b" "vip")).1 = .ok o ∧
        o.version = (tierEngine.withoutCache.run tierSteps).registry.version := by
  refine evaluate_transparent tierEngine {} _ 1 _ (by decide) (by decide) ?_
  exact tierEvents_distinguished
    (((tierEngine.withCache {}).step (.change (.remove "vip"))).step (.change (.add tierRule)))

end Witness

end Escalation.Engine
