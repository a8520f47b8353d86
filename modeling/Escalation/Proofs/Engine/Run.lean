import Escalation.Proofs.Engine.Evaluate
import Mathlib.Data.List.Induction

/-!
# Runs of an engine

A run is a list of steps: changes of the registry, settings of the clock, clearings of the cache and
evaluations. `run` is the engine after them.

What a cache does leaves no trace in the rest of the engine: two engines that agree but for the
cache agree after every run (`Agree.run`), and the registry is what the changes among the steps make
of it (`run_registry`). What a run leaves in a cache that was empty can be told from the run: every
entry is the answer of one of its evaluations that found none, under the key that the event had
there (`run_keeps`), and so it is the outcome of the walk there (`run_stored`). Eviction, expiry and
clearing only make there be fewer entries, so the law does not mention them.
-/

namespace Escalation.Engine

open Registry (Change)

/-- What is asked of an engine. -/
inductive Step where
  | change (c : Change)
  | setClock (clock : Time.Timestamp)
  | clearCache
  | evaluate (now : Nat) (event : Event)

/-- The engine after a step. -/
def step (e : Engine) : Step → Engine
  | .change c => (e.change (·.apply c)).2
  | .setClock clock => e.setClock clock
  | .clearCache => e.clearCache
  | .evaluate now event => (e.evaluate now event).2

/-- The engine after a list of steps, one after the other. -/
def run (e : Engine) (steps : List Step) : Engine :=
  steps.foldl step e

theorem run_append (e : Engine) (before after : List Step) :
    e.run (before ++ after) = (e.run before).run after :=
  List.foldl_append

/-- The changes of the registry among some steps. -/
def changes (steps : List Step) : List Change :=
  steps.filterMap fun
    | .change c => some c
    | _ => none

variable {e f : Engine} {steps : List Step}

/-! ## What runs do to the registry and the clock -/

theorem change_eq (e : Engine) (c : Change) :
    (e.change (·.apply c)).2 = { e with registry := e.registry.after c } := by
  unfold Engine.change Registry.after
  cases applied : e.registry.apply c <;> simp only [applied]

/-- **Engines that agree do so after every step**, whatever their caches hold. -/
theorem Agree.step (h : e.Agree f) (s : Step) : (e.step s).Agree (f.step s) := by
  cases s with
  | change c =>
    simp only [Engine.step, change_eq]
    exact ⟨congrArg (·.after c) h.registry, h.clock, h.offset, h.digest⟩
  | setClock clock => exact ⟨h.registry, rfl, h.offset, h.digest⟩
  | clearCache => exact ⟨h.registry, h.clock, h.offset, h.digest⟩
  | evaluate now event =>
    have left := evaluate_agree e now event
    have right := evaluate_agree f now event
    exact ⟨left.registry.trans (h.registry.trans right.registry.symm),
      left.clock.trans (h.clock.trans right.clock.symm),
      left.offset.trans (h.offset.trans right.offset.symm),
      left.digest.trans (h.digest.trans right.digest.symm)⟩

theorem Agree.run (h : e.Agree f) : (e.run steps).Agree (f.run steps) := by
  induction steps generalizing e f with
  | nil => exact h
  | cons s steps ih => exact ih (h.step s)

/-- The registry after a run is what the changes make of it. -/
theorem run_registry (e : Engine) (steps : List Step) :
    (e.run steps).registry = e.registry.afterAll (changes steps) := by
  induction steps generalizing e with
  | nil => rfl
  | cons s steps ih =>
    refine (ih (e.step s)).trans ?_
    cases s with
    | change c =>
      simp only [Engine.step, change_eq]
      rfl
    | setClock clock => rfl
    | clearCache => rfl
    | evaluate now event =>
      rw [show (e.step (.evaluate now event)).registry = e.registry from
        (evaluate_agree e now event).registry]
      rfl

/-- No step changes what keys are made with, or where the engine is. -/
theorem run_digest (e : Engine) (steps : List Step) :
    (e.run steps).digest = e.digest ∧ (e.run steps).offset = e.offset := by
  induction steps generalizing e with
  | nil => exact ⟨rfl, rfl⟩
  | cons s steps ih =>
    have same : (e.step s).digest = e.digest ∧ (e.step s).offset = e.offset := by
      cases s with
      | change c =>
        rw [Engine.step, change_eq]
        exact ⟨rfl, rfl⟩
      | setClock clock => exact ⟨rfl, rfl⟩
      | clearCache => exact ⟨rfl, rfl⟩
      | evaluate now event =>
        have agree := evaluate_agree e now event
        exact ⟨agree.digest, agree.offset⟩
    exact ⟨(ih (e.step s)).1.trans same.1, (ih (e.step s)).2.trans same.2⟩

/-! ## What runs leave in the cache -/

/-- A run gives no cache to an engine that has none. -/
theorem run_uncached (h : e.cache = none) (steps : List Step) : (e.run steps).cache = none := by
  induction steps generalizing e with
  | nil => exact h
  | cons s steps ih =>
    refine ih (e := e.step s) ?_
    cases s with
    | change c =>
      rw [Engine.step, change_eq]
      exact h
    | setClock clock => exact h
    | clearCache =>
      rw [Engine.step, Engine.clearCache, h]
      rfl
    | evaluate now event =>
      rw [Engine.step, evaluate_uncached h]
      exact h

/-- An entry was stored during a run: at one of its evaluations it had the key of the event and the
outcome of the walk. -/
def Stored (e : Engine) (steps : List Step) (entry : CacheEntry) : Prop :=
  ∃ before now event after, steps = before ++ .evaluate now event :: after ∧
    entry.key = (e.run before).key event ∧ entry.outcome = (e.run before).walk event

/-- An entry was kept during a run: at one of its evaluations no outcome was found, and the answer was
kept under the key of the event. -/
def Kept (e : Engine) (steps : List Step) (entry : CacheEntry) : Prop :=
  ∃ before now event after, steps = before ++ .evaluate now event :: after ∧
    (e.run before).Misses now event ∧ entry.key = (e.run before).key event ∧
    ((e.run before).evaluate now event).1 = .ok entry.outcome

/-- What was kept during a run was kept during a longer one. -/
theorem Kept.append {entry : CacheEntry} (h : e.Kept steps entry) (more : List Step) :
    e.Kept (steps ++ more) entry := by
  obtain ⟨before, now, event, after, rfl, answered⟩ := h
  exact ⟨before, now, event, after ++ more, by simp, answered⟩

theorem Kept.stored {entry : CacheEntry} (h : e.Kept steps entry) : e.Stored steps entry := by
  obtain ⟨before, now, event, after, split, miss, key, answer⟩ := h
  exact ⟨before, now, event, after, split, key, eq_walk_of_miss miss answer⟩

/-- **Every entry of the cache was kept during the run**, if the cache was empty before it. The
induction adds the last step. -/
theorem run_keeps {settings : CacheSettings} (h : e.cache = some (.ofSettings settings))
    (steps : List Step) : ∃ cache, (e.run steps).cache = some cache ∧
      cache.settings = settings ∧ ∀ entry ∈ cache.entries, e.Kept steps entry := by
  induction steps using List.reverseRecOn with
  | nil => exact ⟨_, h, rfl, fun entry mem => nomatch mem⟩
  | append_singleton steps s ih =>
    obtain ⟨cache, present, same, kept⟩ := ih
    rw [run_append]
    change ∃ cache, ((e.run steps).step s).cache = some cache ∧ _
    have earlier : ∀ entry ∈ cache.entries, e.Kept (steps ++ [s]) entry := fun entry mem =>
      (kept entry mem).append [s]
    cases s with
    | change c =>
      refine ⟨cache, ?_, same, earlier⟩
      simpa only [Engine.step, change_eq] using present
    | setClock clock => exact ⟨cache, present, same, earlier⟩
    | clearCache =>
      refine ⟨cache.clear, ?_, same, fun entry mem => nomatch mem⟩
      simp only [Engine.step, Engine.clearCache, present, Option.map_some]
    | evaluate now event =>
      obtain ⟨next, after, still, keeps⟩ := evaluate_keeps present now event
      refine ⟨next, after, still.trans same, fun entry mem => ?_⟩
      rcases keeps entry mem with mem | answered
      · exact earlier entry mem
      · exact ⟨steps, now, event, [], rfl, answered⟩

/-- **Every entry of the cache was stored during the run** with the outcome of a walk. -/
theorem run_stored {settings : CacheSettings} (h : e.cache = some (.ofSettings settings))
    (steps : List Step) : ∃ cache, (e.run steps).cache = some cache ∧
      cache.settings = settings ∧ ∀ entry ∈ cache.entries, e.Stored steps entry := by
  obtain ⟨cache, present, same, kept⟩ := run_keeps h steps
  exact ⟨cache, present, same, fun entry mem => (kept entry mem).stored⟩

end Escalation.Engine
