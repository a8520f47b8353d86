import Escalation.Engine
import Escalation.Proofs.Cache.Contents
import Escalation.Proofs.Condition.Reads
import Escalation.Proofs.Registry.Registration
import Escalation.Proofs.Rule.FirstMatch

/-!
# Evaluating an event

What `Engine.evaluate` can do, once for all that follows (`evaluate_cases`): it answers from the
cache, or it answers with the walk over the present rules and stores that, or it fails because the
outcome's time would end after the clock. It changes nothing but the cache and the metrics
(`evaluate_agree`), and the cache gains at most the answer, under the key of the event
(`evaluate_keeps`).

With what a run of changes registers, this gives the meaning of an answer end to end
(`evaluate_firstMatch`): where the cache has none, the enabled rules of the plain list are gone
through by descending priority, and the first that holds decides. That an outcome cannot be stored
is the one case without an answer, and it does occur (`endlessEngine_unanswered`).
-/

namespace Escalation.Engine

variable {e : Engine} {now : Nat} {event : Event}

/-- The cache has no outcome for the event, or there is no cache. -/
def Misses (e : Engine) (now : Nat) (event : Event) : Prop :=
  ∀ cache ∈ e.cache, (cache.get now (e.key event)).1 = none

/-- The cache can store an outcome now, or there is no cache. -/
def Stores (e : Engine) (now : Nat) : Prop :=
  ∀ cache ∈ e.cache, cache.Stores now

/-! ## What an evaluation does -/

theorem walk_withCache (e : Engine) (cache : Option Cache) (event : Event) :
    ({ e with cache } : Engine).walk event = e.walk event := by
  unfold walk scope timeOfDay
  rfl

/-- **All that an evaluation with a cache can do**: it finds an outcome, or finds none and stores
that of the walk, or can store none. -/
theorem evaluate_cases {cache : Cache} (h : e.cache = some cache) (now : Nat) (event : Event) :
    (∃ kept, (cache.get now (e.key event)).1 = some kept ∧
      e.evaluate now event =
        (.ok { kept with cacheHit := true },
          ({ e with cache := some (cache.get now (e.key event)).2 } : Engine).recorded kept true)) ∨
    ((cache.get now (e.key event)).1 = none ∧ cache.Stores now ∧
      ∃ stored, (cache.get now (e.key event)).2.put now (e.key event) (e.walk event) =
          some stored ∧
        e.evaluate now event =
          (.ok (e.walk event),
            ({ e with cache := some stored } : Engine).recorded (e.walk event) false)) ∨
    ((cache.get now (e.key event)).1 = none ∧ ¬ cache.Stores now ∧
      e.evaluate now event =
        (.error .beyondClock, { e with cache := some (cache.get now (e.key event)).2 })) := by
  have settings : (cache.get now (e.key event)).2.settings = cache.settings := Cache.get_settings
  rcases found : cache.get now (e.key event) with ⟨kept, next⟩
  rw [found] at settings
  cases kept with
  | some kept =>
    refine .inl ⟨kept, rfl, ?_⟩
    rw [evaluate]
    simp only [h, found]
  | none =>
    have stores : (next.put now (e.key event) (e.walk event)).isSome = true ↔ cache.Stores now := by
      rw [Cache.put_isSome, Cache.Stores, Cache.Stores, settings]
    cases put : next.put now (e.key event) (e.walk event) with
    | some stored =>
      rw [put] at stores
      refine .inr (.inl ⟨rfl, stores.mp rfl, stored, rfl, ?_⟩)
      rw [evaluate]
      simp only [h, found, walk_withCache, put]
    | none =>
      rw [put] at stores
      refine .inr (.inr ⟨rfl, fun fits => absurd (stores.mpr fits) Bool.false_ne_true, ?_⟩)
      rw [evaluate]
      simp only [h, found, walk_withCache, put]

theorem evaluate_uncached (h : e.cache = none) :
    e.evaluate now event = (.ok (e.walk event), e.recorded (e.walk event) false) := by
  rw [evaluate, h]

/-- **Where the cache has no outcome, the answer is the walk over the present rules**, if that can
be stored; else there is none. -/
theorem evaluate_miss (miss : e.Misses now event) :
    (e.Stores now → (e.evaluate now event).1 = .ok (e.walk event)) ∧
      (¬ e.Stores now → (e.evaluate now event).1 = .error .beyondClock) := by
  cases h : e.cache with
  | none =>
    refine ⟨fun _ => by rw [evaluate_uncached h], fun full => absurd ?_ full⟩
    intro cache mem
    rw [h] at mem
    cases mem
  | some cache =>
    have stores : e.Stores now ↔ cache.Stores now := by
      refine ⟨fun all => all cache h, fun fits other mem => ?_⟩
      cases h.symm.trans mem
      exact fits
    rcases evaluate_cases h now event with hit | ⟨-, fits, stored⟩ | ⟨-, full, eq⟩
    · obtain ⟨kept, found, -⟩ := hit
      rw [miss cache h] at found
      cases found
    · obtain ⟨next, -, eq⟩ := stored
      exact ⟨fun _ => by rw [eq], fun full => absurd (stores.mpr fits) full⟩
    · exact ⟨fun fits => absurd (stores.mp fits) full, fun _ => by rw [eq]⟩

/-! ## What an evaluation leaves -/

/-- Two engines agree on what an answer depends on: they differ at most in what their caches keep
and in what they have counted. -/
structure Agree (e f : Engine) : Prop where
  registry : e.registry = f.registry
  clock : e.clock = f.clock
  offset : e.offset = f.offset
  digest : e.digest = f.digest

theorem Agree.walk {e f : Engine} (h : e.Agree f) (event : Event) :
    e.walk event = f.walk event := by
  simp only [Engine.walk, scope, timeOfDay, h.registry, h.clock, h.offset]

/-- An evaluation changes only the cache and the metrics. -/
theorem evaluate_agree (e : Engine) (now : Nat) (event : Event) :
    (e.evaluate now event).2.Agree e := by
  cases h : e.cache with
  | none =>
    rw [evaluate_uncached h]
    exact ⟨rfl, rfl, rfl, rfl⟩
  | some cache =>
    rcases evaluate_cases h now event with ⟨_, -, eq⟩ | ⟨-, -, _, -, eq⟩ | ⟨-, -, eq⟩
    all_goals
      rw [eq]
      exact ⟨rfl, rfl, rfl, rfl⟩

/-- **An evaluation keeps no outcome but its answer**, under the key of its event, where it had found
none. -/
theorem evaluate_keeps {cache : Cache} (h : e.cache = some cache) (now : Nat) (event : Event) :
    ∃ next, (e.evaluate now event).2.cache = some next ∧ next.settings = cache.settings ∧
      ∀ entry ∈ next.entries, entry ∈ cache.entries ∨
        e.Misses now event ∧ entry.key = e.key event ∧
          (e.evaluate now event).1 = .ok entry.outcome := by
  rcases evaluate_cases h now event with ⟨_, -, eq⟩ | ⟨none, -, stored, put, eq⟩ | ⟨-, -, eq⟩
  · exact ⟨_, by rw [eq]; rfl, Cache.get_settings, fun _ mem => .inl (Cache.mem_of_mem_get mem)⟩
  · refine ⟨stored, by rw [eq]; rfl, (Cache.put_settings put).trans Cache.get_settings, ?_⟩
    have miss : e.Misses now event := by
      intro other present
      cases h.symm.trans present
      exact none
    intro entry mem
    refine (Cache.mem_of_mem_put put mem).imp Cache.mem_of_mem_get fun ⟨key, outcome⟩ => ?_
    exact ⟨miss, key, by rw [eq, outcome]⟩
  · exact ⟨_, by rw [eq], Cache.get_settings, fun _ mem => .inl (Cache.mem_of_mem_get mem)⟩

/-- An answer where none was kept is the walk. -/
theorem eq_walk_of_miss (miss : e.Misses now event) {o : Outcome}
    (answer : (e.evaluate now event).1 = .ok o) : o = e.walk event := by
  by_cases stores : e.Stores now
  · exact Except.ok.inj (answer.symm.trans ((evaluate_miss miss).1 stores))
  · cases answer.symm.trans ((evaluate_miss miss).2 stores)

/-! ## First match wins -/

/-- **An answer end to end.** After any run of changes of the registry, an evaluation that finds no
kept outcome goes through the enabled rules by descending priority, those of equal priority in the
order of their registration, and tells of the first that holds. It has no answer only where an
outcome cannot be stored. -/
theorem evaluate_firstMatch (changes : List Registry.Change)
    (reached : e.registry = Registry.empty.afterAll changes) (miss : e.Misses now event) :
    ∃ o, FirstMatch (e.scope event) (Registry.evaluationOrder (Registry.registered changes)) o ∧
      (e.Stores now → (e.evaluate now event).1 = .ok o) ∧
      (¬ e.Stores now → (e.evaluate now event).1 = .error .beyondClock) := by
  refine ⟨e.walk event, ?_, evaluate_miss miss⟩
  have registers := Registry.afterAll_registers changes
  rw [← reached] at registers
  rw [← registers.enabled]
  exact walkRules_firstMatch e.registry.active.version _

section Witness

/-- An engine with an empty cache and one registered rule. -/
def tierEngine : Engine where
  registry := Registry.empty.afterAll [.add tierRule]
  cache := some (.ofSettings {})
  metrics := none
  clock := ⟨0, 0⟩
  offset := .universal

/-- A user of a tier asks. -/
def tierEvent (conversationId tier : String) : Event where
  context := { conversationId, userAttributes := .ofList [("tier", .text tier)] }
  decision := {}
  metadata := .empty

theorem tierEngine_stores : tierEngine.Stores 0 := by
  rintro cache ⟨⟩
  unfold Cache.Stores
  decide

theorem tierEngine_firstMatch :
    ∃ o, FirstMatch (tierEngine.scope (tierEvent "a" "vip"))
        (Registry.evaluationOrder (Registry.registered [.add tierRule])) o ∧
      (tierEngine.evaluate 0 (tierEvent "a" "vip")).1 = .ok o := by
  have miss : tierEngine.Misses 0 (tierEvent "a" "vip") := by
    rintro cache ⟨⟩
    rfl
  obtain ⟨o, first, answer, -⟩ := evaluate_firstMatch [.add tierRule] (e := tierEngine) rfl miss
  exact ⟨o, first, answer tierEngine_stores⟩

/-- The engine with a cache that is to keep outcomes for longer than the clock runs. -/
def endlessEngine : Engine :=
  { tierEngine with cache := some (.ofSettings { ttlSeconds := 18446744073709551615 }) }

theorem endlessEngine_misses (event : Event) : endlessEngine.Misses 0 event := by
  rintro cache ⟨⟩
  rfl

theorem endlessEngine_fails (event : Event) :
    (endlessEngine.evaluate 0 event).1 = .error .beyondClock := by
  refine (evaluate_miss (endlessEngine_misses event)).2 fun stores => ?_
  have fits := stores _ rfl
  unfold Cache.Stores at fits
  revert fits
  decide

/-- **An outcome that cannot be stored is lost**: there is no answer, although a rule holds. -/
theorem endlessEngine_unanswered :
    endlessEngine.registry = Registry.empty.afterAll [.add tierRule] ∧
      endlessEngine.Misses 0 (tierEvent "a" "vip") ∧
      tierRule.holds (endlessEngine.scope (tierEvent "a" "vip")) = true ∧
      ∀ o, (endlessEngine.evaluate 0 (tierEvent "a" "vip")).1 ≠ .ok o := by
  refine ⟨rfl, endlessEngine_misses _, by decide, fun o answer => ?_⟩
  cases (endlessEngine_fails _).symm.trans answer

end Witness

end Escalation.Engine
