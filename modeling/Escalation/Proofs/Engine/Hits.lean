import Escalation.Proofs.Cache.Retention
import Escalation.Proofs.Engine.Answers
import Escalation.Proofs.Engine.Changes

/-!
# When an outcome is kept

A cache that lasts as long as a run and has no bound answers exactly the evaluations that read what
an evaluation since the last clearing has read (`evaluate_hit_iff`).

Along such a run the cache holds the keys of the evaluations since the last clearing and no others
(`run_holds`): every step adds the key of an evaluation, drops all keys, or leaves them as they are.
Two evaluations have one key exactly if they read alike (`ReadsAlike`): for one direction the bytes
that are digested are to be told apart by the digest, for the other nothing is assumed, since what
is read is written in one way only. Changes of the registry need no rule of their own. They raise
the version, which is read, and that is why nothing is found after one of them.
-/

namespace Escalation.Engine

open Fingerprint (Input)

/-! ## Evaluations since the last clearing -/

/-- **One of the evaluations since the last clearing** was of this kind, as to the engine that it
found and its event. -/
def SinceClear (e : Engine) (steps : List Step) (P : Engine → Event → Prop) : Prop :=
  ∃ before past other after, steps = before ++ .evaluate past other :: after ∧
    .clearCache ∉ after ∧ P (e.run before) other

variable {e : Engine} {steps : List Step} {P : Engine → Event → Prop}

/-- The last step is the evaluation, or there was one before it and it clears nothing. -/
theorem sinceClear_snoc (s : Step) : e.SinceClear (steps ++ [s]) P ↔
    (∃ now event, s = .evaluate now event ∧ P (e.run steps) event) ∨
      s ≠ .clearCache ∧ e.SinceClear steps P := by
  constructor
  · rintro ⟨before, past, other, after, split, kept, holds⟩
    rcases after.eq_nil_or_concat with rfl | ⟨rest, last, rfl⟩
    · obtain ⟨rfl, same⟩ := List.append_inj' split rfl
      exact .inl ⟨past, other, List.head_eq_of_cons_eq same, holds⟩
    · rw [List.concat_eq_append] at split kept
      rw [← List.cons_append, ← List.append_assoc] at split
      obtain ⟨rfl, same⟩ := List.append_inj' split rfl
      have last : s = last := List.head_eq_of_cons_eq same
      refine .inr ⟨?_, before, past, other, rest, rfl, ?_, holds⟩
      · rintro rfl
        exact kept (last ▸ List.mem_append_right _ List.mem_cons_self)
      · exact fun mem => kept (List.mem_append_left _ mem)
  · rintro (⟨now, event, rfl, holds⟩ | ⟨quiet, before, past, other, after, rfl, kept, holds⟩)
    · exact ⟨steps, now, event, [], rfl, List.not_mem_nil, holds⟩
    · refine ⟨before, past, other, after ++ [s], by simp, ?_, holds⟩
      rw [List.mem_append, List.mem_singleton]
      exact fun mem => mem.elim kept fun same => quiet same.symm

/-! ## The keys that are held -/

/-- **The time that outcomes are kept outlasts the evaluations** among some steps: they lie within
that time from the start, and the clock does not end within that time of one of them. -/
def Within (settings : CacheSettings) (start : Nat) (steps : List Step) : Prop :=
  ∀ now event, .evaluate now event ∈ steps → start ≤ now ∧
    now < start + 1000000000 * settings.ttlSeconds ∧
    now + 1000000000 * settings.ttlSeconds < lastInstant

/-- **An evaluation on a cache that drops nothing** answers, and is a hit exactly if its key is
held; else the cache gains one entry, under its key. -/
theorem evaluate_of_lasts {cache : Cache} (present : e.cache = some cache)
    (unbounded : cache.settings.maxEntries = 0) {deadline now : Nat}
    (lasts : cache.LastsUntil deadline) (early : now < deadline) (stores : cache.Stores now)
    (event : Event) :
    ∃ o next, (e.evaluate now event).1 = .ok o ∧ (e.evaluate now event).2.cache = some next ∧
      next.settings = cache.settings ∧
      (o.cacheHit = true ∧ cache.Holds (e.key event) ∧ next.entries = cache.entries ∨
        o.cacheHit = false ∧ ¬ cache.Holds (e.key event) ∧
          next.entries = cache.entries ++
            [⟨e.key event, e.walk event, now,
              now + 1000000000 * cache.settings.ttlSeconds⟩]) := by
  obtain ⟨finds, same⟩ := Cache.get_of_lasts lasts early (e.key event)
  have kept : (cache.get now (e.key event)).2.settings = cache.settings := Cache.get_settings
  rcases evaluate_cases present now event with
    ⟨o, found, eq⟩ | ⟨none, -, stored, put, eq⟩ | ⟨-, full, -⟩
  · rw [found] at finds
    exact ⟨_, _, congrArg Prod.fst eq, by rw [eq]; rfl, kept, .inl ⟨rfl, finds.mp rfl, same⟩⟩
  · rw [none] at finds
    have absent : ¬ cache.Holds (e.key event) := fun held => nomatch finds.mpr held
    have entries := Cache.put_of_unbounded (by rw [kept, unbounded])
      (by rwa [Cache.Holds, same, ← Cache.Holds]) put
    rw [same, kept] at entries
    have fresh : (e.walk event).cacheHit = false := RuleSet.walkRules_cacheHit .fast _ _
    exact ⟨_, stored, congrArg Prod.fst eq, by rw [eq]; rfl, (Cache.put_settings put).trans kept,
      .inr ⟨fresh, absent, entries⟩⟩
  · exact absurd stores full

variable {settings : CacheSettings} {start now : Nat} {event : Event}

/-- **The cache holds the keys of the evaluations since the last clearing**, and nothing it holds
expires during the run. The induction adds the last step. -/
theorem run_holds (empty : e.cache = some (.ofSettings settings))
    (unbounded : settings.maxEntries = 0) (within : Within settings start steps) :
    ∃ cache, (e.run steps).cache = some cache ∧ cache.settings = settings ∧
      cache.LastsUntil (start + 1000000000 * settings.ttlSeconds) ∧
      ∀ key, cache.Holds key ↔ e.SinceClear steps fun f other => f.key other = key := by
  induction steps using List.reverseRecOn with
  | nil =>
    refine ⟨_, empty, rfl, Cache.lastsUntil_nil rfl, fun key =>
      ⟨fun held => absurd held (Cache.not_holds_nil rfl), ?_⟩⟩
    rintro ⟨before, past, other, after, split, -⟩
    exact absurd split (by simp)
  | append_singleton steps s ih =>
    obtain ⟨cache, present, kept, lasts, holds⟩ :=
      ih fun now event mem => within now event (List.mem_append_left _ mem)
    have silent (quiet : ∀ now event, s ≠ .evaluate now event) (keeps : s ≠ .clearCache) :
        ∀ key, cache.Holds key ↔
          e.SinceClear (steps ++ [s]) fun f other => f.key other = key := by
      intro key
      rw [sinceClear_snoc, holds]
      constructor
      · exact fun earlier => .inr ⟨keeps, earlier⟩
      · rintro (⟨now, event, same, -⟩ | ⟨-, earlier⟩)
        · exact absurd same (quiet now event)
        · exact earlier
    rw [run_append]
    change ∃ cache, ((e.run steps).step s).cache = some cache ∧ _
    cases s with
    | change c =>
      refine ⟨cache, ?_, kept, lasts, silent (by simp) (by simp)⟩
      simpa only [step, change_eq] using present
    | setClock clock => exact ⟨cache, present, kept, lasts, silent (by simp) (by simp)⟩
    | clearCache =>
      refine ⟨cache.clear, ?_, kept, Cache.lastsUntil_nil rfl, fun key =>
        ⟨fun held => absurd held (Cache.not_holds_nil rfl), ?_⟩⟩
      · simp only [step, clearCache, present, Option.map_some]
      · rw [sinceClear_snoc]
        rintro (⟨_, _, same, -⟩ | ⟨quiet, -⟩)
        · cases same
        · exact absurd rfl quiet
    | evaluate now event =>
      obtain ⟨late, early, fits⟩ := within now event (List.mem_append_right _ List.mem_cons_self)
      obtain ⟨o, next, -, after, same, effect⟩ := evaluate_of_lasts present
        (kept ▸ unbounded) lasts early (by rwa [Cache.Stores, kept]) event
      refine ⟨next, after, same.trans kept, ?_⟩
      have added (key : String) : e.SinceClear (steps ++ [.evaluate now event])
          (fun f other => f.key other = key) ↔
            (e.run steps).key event = key ∨ cache.Holds key := by
        rw [sinceClear_snoc, holds]
        constructor
        · rintro (⟨_, _, ⟨⟩, key⟩ | ⟨-, earlier⟩)
          · exact .inl key
          · exact .inr earlier
        · rintro (key | earlier)
          · exact .inl ⟨now, event, rfl, key⟩
          · exact .inr ⟨by simp, earlier⟩
      rcases effect with ⟨-, held, entries⟩ | ⟨-, -, entries⟩
      · refine ⟨by rwa [Cache.LastsUntil, entries], fun key => ?_⟩
        rw [added, Cache.Holds, entries, ← Cache.Holds]
        exact ⟨.inr, fun either => either.elim (fun key => key ▸ held) id⟩
      · refine ⟨Cache.lastsUntil_snoc entries lasts ?_, fun key => ?_⟩
        · rw [kept]
          exact Nat.add_le_add_right late _
        · rw [added, Cache.holds_snoc entries]

/-! ## What evaluations read -/

/-- **Two evaluations read alike**: the same version of the rules, events that agree on all that
rules read, with the timestamps of messages where a registered rule reads these, and the same minute
of the day where one reads the clock. -/
structure ReadsAlike (e : Engine) (event : Event) (f : Engine) (other : Event) : Prop where
  version : f.registry.version = e.registry.version
  scope : (f.scope other).Agree e.registry.active.readsTimestamps (e.scope event)
  minute : e.registry.active.hasTimeConditions = true → f.timeOfDay = e.timeOfDay

/-- Under the same rules, what is read is what is digested. -/
theorem readsAlike_iff {f : Engine} {other : Event} (registry : f.registry = e.registry) :
    ReadsAlike e event f other ↔ (f.input other).Same (e.input event) := by
  constructor
  · rintro ⟨version, scope, minute⟩
    refine ⟨version, by simp only [input, registry], ?_, by simpa only [input, registry] using scope⟩
    simp only [input, registry]
    split
    · next timed => rw [minute timed]
    · rfl
  · rintro ⟨version, -, minute, scope⟩
    refine ⟨version, by simpa only [input, registry] using scope, fun timed => ?_⟩
    simp only [input, registry, timed, if_true] at minute
    exact Option.some.inj minute

/-- Along a run, two evaluations have one key exactly if they read alike. -/
theorem key_eq_iff {before after : List Step} {past : Nat} {other : Event}
    (few : (changes (before ++ .evaluate past other :: after)).length < 2 ^ 64)
    (distinct : Distinguishes e.digest
      (e.inputs (before ++ .evaluate past other :: after ++ [.evaluate now event]))) :
    (e.run before).key other = (e.run (before ++ .evaluate past other :: after)).key event ↔
      ReadsAlike (e.run (before ++ .evaluate past other :: after)) event (e.run before) other := by
  have own := input_mem e (before ++ .evaluate past other :: after) [] now event
  have earlier : (e.run before).input other ∈
      e.inputs (before ++ .evaluate past other :: after ++ [.evaluate now event]) := by
    rw [List.append_assoc]
    exact input_mem e before _ past other
  rw [key_eq, key_eq, (run_digest e _).1, (run_digest e _).1]
  constructor
  · intro same
    have same := distinct _ earlier _ own same
    exact (readsAlike_iff (run_registry_of_version few same.version).symm).mpr same
  · intro alike
    have same := (readsAlike_iff (run_registry_of_version few alike.version).symm).mp alike
    rw [same.bytes]

/-- An event that agrees on what rules read has the same key, also after an evaluation. -/
theorem key_of_agree {f : Engine} {past : Nat} {first other : Event}
    (agree : (f.scope first).Agree f.registry.active.readsTimestamps (f.scope other)) :
    (f.evaluate past first).2.key other = f.key first := by
  have same : (f.input first).Same (f.input other) := ⟨rfl, rfl, rfl, agree⟩
  have unchanged := evaluate_agree f past first
  rw [key_eq, key_eq, unchanged.input, unchanged.digest, same.bytes]

/-! ## Changes -/

/-- What was evaluated was evaluated before the last change. -/
theorem evaluate_before_change {before rest first later : List Step} {c : Registry.Change}
    {past : Nat} {other : Event}
    (split : before ++ .change c :: rest = first ++ .evaluate past other :: later)
    (quiet : ∀ past other, .evaluate past other ∉ rest) :
    ∃ between, before = first ++ .evaluate past other :: between := by
  rcases List.append_eq_append_iff.mp split with ⟨as, rfl, eq⟩ | ⟨bs, rfl, eq⟩
  · cases as with
    | nil => cases List.head_eq_of_cons_eq eq
    | cons a as =>
      have tail := List.tail_eq_of_cons_eq eq
      exact absurd (tail ▸ List.mem_append_right as List.mem_cons_self) (quiet past other)
  · cases bs with
    | nil => cases List.head_eq_of_cons_eq eq
    | cons b bs => exact ⟨bs, by rw [List.head_eq_of_cons_eq eq]⟩

/-- **A change that is made brings every later moment to another version.** -/
theorem version_ne_of_change {first between rest : List Step} {c : Registry.Change}
    (accepted : c.accepted (e.run (first ++ between)).registry.active.rules = true)
    (acts : c.isIdle (e.run (first ++ between)).registry.active.rules = false)
    (few : (changes (first ++ between ++ .change c :: rest)).length < 2 ^ 64) :
    (e.run (first ++ between ++ .change c :: rest)).registry.version ≠
      (e.run first).registry.version := by
  rw [run_append, run_registry] at accepted acts
  rw [List.append_assoc, run_append, run_registry]
  have split : changes (between ++ .change c :: rest) = changes between ++ c :: changes rest := by
    simp only [changes, List.filterMap_append, List.filterMap_cons]
  rw [split]
  refine Registry.afterAll_version_ne accepted acts (Nat.lt_of_le_of_lt ?_ few)
  rw [← split]
  simp only [changes, List.filterMap_append, List.length_append, Nat.add_assoc]
  exact Nat.le_add_left _ _

/-- Nothing that was evaluated before a change that is made reads alike after it. -/
theorem not_sinceClear_of_change {before rest : List Step} {c : Registry.Change}
    (few : (changes (before ++ .change c :: rest)).length < 2 ^ 64)
    (accepted : c.accepted (e.run before).registry.active.rules = true)
    (acts : c.isIdle (e.run before).registry.active.rules = false)
    (quiet : ∀ past other, .evaluate past other ∉ rest) :
    ¬ e.SinceClear (before ++ .change c :: rest)
      (ReadsAlike (e.run (before ++ .change c :: rest)) event) := by
  rintro ⟨first, past, other, later, split, -, alike⟩
  obtain ⟨between, rfl⟩ := evaluate_before_change split quiet
  exact version_ne_of_change accepted acts few alike.version.symm

/-! ## Hits are exact -/

/-- Of the evaluations since the last clearing, those with the key of an event read alike. -/
theorem sinceClear_key_iff (few : (changes steps).length < 2 ^ 64)
    (distinct : Distinguishes e.digest (e.inputs (steps ++ [.evaluate now event]))) :
    e.SinceClear steps (fun f other => f.key other = (e.run steps).key event) ↔
      e.SinceClear steps (ReadsAlike (e.run steps) event) := by
  constructor
  · rintro ⟨before, past, other, after, rfl, quiet, key⟩
    exact ⟨before, past, other, after, rfl, quiet, (key_eq_iff few distinct).mp key⟩
  · rintro ⟨before, past, other, after, rfl, quiet, alike⟩
    exact ⟨before, past, other, after, rfl, quiet, (key_eq_iff few distinct).mpr alike⟩

/-- **What was just evaluated is held**: an event that agrees on what rules read is a hit, and the
cache has as many entries as before. -/
theorem evaluate_again (empty : e.cache = some (.ofSettings settings))
    (unbounded : settings.maxEntries = 0)
    (within : Within settings start (steps ++ [.evaluate now event])) {later : Nat} {other : Event}
    (soon : Within settings start [.evaluate later other])
    (agree : ((e.run steps).scope event).Agree (e.run steps).registry.active.readsTimestamps
      ((e.run steps).scope other)) :
    ∃ o, (((e.run steps).evaluate now event).2.evaluate later other).1 = .ok o ∧
      o.cacheHit = true ∧
      (((e.run steps).evaluate now event).2.evaluate later other).2.cache.map Cache.size =
        ((e.run steps).evaluate now event).2.cache.map Cache.size := by
  have run : ((e.run steps).evaluate now event).2 = e.run (steps ++ [.evaluate now event]) :=
    (run_append e steps [.evaluate now event]).symm
  obtain ⟨cache, present, kept, lasts, holds⟩ := run_holds empty unbounded within
  rw [run]
  obtain ⟨-, early, fits⟩ := soon later other List.mem_cons_self
  obtain ⟨o, next, answer, left, -, effect⟩ := evaluate_of_lasts present
    (kept ▸ unbounded) lasts early (by rwa [Cache.Stores, kept]) other
  have held : cache.Holds ((e.run (steps ++ [.evaluate now event])).key other) := by
    rw [holds, sinceClear_snoc]
    refine .inl ⟨now, event, rfl, ?_⟩
    rw [← run, key_of_agree agree]
  rcases effect with ⟨hit, -, entries⟩ | ⟨-, absent, -⟩
  · refine ⟨o, answer, hit, ?_⟩
    rw [left, present, Option.map_some, Option.map_some, Cache.size, Cache.size, entries]
  · exact absurd held absent

/-- **Hits are exact.** The run's time is within that for which outcomes are kept, and any number of
them is: then every evaluation answers, and

* it is a hit exactly if one of the evaluations since the last clearing read alike;
* the first one after a change that is made is none;
* after it an event that differs from its own only in what no rule reads is a hit, and is kept in
  the same entry. -/
theorem evaluate_hit_iff (empty : e.cache = some (.ofSettings settings))
    (unbounded : settings.maxEntries = 0)
    (within : Within settings start (steps ++ [.evaluate now event]))
    (few : (changes steps).length < 2 ^ 64)
    (sized : ∀ i ∈ e.inputs (steps ++ [.evaluate now event]), i.Sized)
    (apart : ∀ i ∈ e.inputs (steps ++ [.evaluate now event]),
      ∀ j ∈ e.inputs (steps ++ [.evaluate now event]),
        e.digest i.bytes = e.digest j.bytes → i.bytes = j.bytes) :
    ∃ o, ((e.run steps).evaluate now event).1 = .ok o ∧
      (o.cacheHit = true ↔ e.SinceClear steps (ReadsAlike (e.run steps) event)) ∧
      (∀ before c after, steps = before ++ .change c :: after →
        c.accepted (e.run before).registry.active.rules = true →
        c.isIdle (e.run before).registry.active.rules = false →
        (∀ past other, .evaluate past other ∉ after) → o.cacheHit = false) ∧
      ∀ later other rest, Within settings start [.evaluate later other] →
        (((e.run steps).scope event).withRest rest).Agree
          (e.run steps).registry.active.readsTimestamps ((e.run steps).scope other) →
        ∃ o', (((e.run steps).evaluate now event).2.evaluate later other).1 = .ok o' ∧
          o'.cacheHit = true ∧
          (((e.run steps).evaluate now event).2.evaluate later other).2.cache.map Cache.size =
            ((e.run steps).evaluate now event).2.cache.map Cache.size := by
  obtain ⟨cache, present, kept, lasts, holds⟩ :=
    run_holds empty unbounded fun past other mem => within past other (List.mem_append_left _ mem)
  obtain ⟨-, early, fits⟩ := within now event (List.mem_append_right _ List.mem_cons_self)
  obtain ⟨o, next, answer, -, -, effect⟩ := evaluate_of_lasts present
    (kept ▸ unbounded) lasts early (by rwa [Cache.Stores, kept]) event
  have held : o.cacheHit = true ↔ cache.Holds ((e.run steps).key event) := by
    rcases effect with ⟨hit, held, -⟩ | ⟨miss, absent, -⟩
    · exact iff_of_true hit held
    · exact iff_of_false (by simp [miss]) absent
  have hit : o.cacheHit = true ↔ e.SinceClear steps (ReadsAlike (e.run steps) event) :=
    held.trans ((holds _).trans (sinceClear_key_iff few (distinguishes_of_bytes sized apart)))
  refine ⟨o, answer, hit, ?_, ?_⟩
  · rintro before c rest rfl accepted acts quiet
    rw [← Bool.not_eq_true, hit]
    exact not_sinceClear_of_change few accepted acts quiet
  · intro later other rest soon agree
    exact evaluate_again empty unbounded within soon agree.of_withRest_left

section Witness

theorem tierEvent_sized (e : Engine) (id : String) : (e.input (tierEvent id "vip")).Sized where
  count := show 0 < 2 ^ 64 by decide
  messages := List.forall_mem_nil _
  userAttributes :=
    ⟨show 1 < 2 ^ 64 by decide, show 4 < 2 ^ 64 by decide, show 3 < 2 ^ 64 by decide, trivial⟩
  contextMetadata := Input.sized_empty
  entities := Input.sized_empty
  metadata := Input.sized_empty
  decision := ⟨nofun, nofun, Input.sized_empty⟩

/-- The same user asks in another conversation, and the outcome is kept. -/
theorem tierEngine_hit : ∃ o,
    (((tierEngine.withCache { maxEntries := 0 }).run [.evaluate 0 (tierEvent "a" "vip")]).evaluate 1
      (tierEvent "b" "vip")).1 = .ok o ∧ o.cacheHit = true := by
  have within : Within { maxEntries := 0 } 0
      ([.evaluate 0 (tierEvent "a" "vip")] ++ [.evaluate 1 (tierEvent "b" "vip")]) := by
    intro now event mem
    rcases List.mem_pair.mp mem with same | same
    all_goals
      obtain ⟨rfl, rfl⟩ := Step.evaluate.inj same
      decide
  have all := tierEvents_inputs (tierEngine.withCache { maxEntries := 0 })
  obtain ⟨o, answer, hit, -⟩ := evaluate_hit_iff (e := tierEngine.withCache { maxEntries := 0 })
    rfl rfl within (by decide)
    (fun i hi => by
      obtain ⟨id, rfl⟩ := all i hi
      exact tierEvent_sized _ id)
    (fun i hi j hj _ => by
      obtain ⟨a, rfl⟩ := all i hi
      obtain ⟨b, rfl⟩ := all j hj
      exact (tierEvent_same _ a b).bytes)
  refine ⟨o, answer, hit.mpr ⟨[], 0, tierEvent "a" "vip", [], rfl, List.not_mem_nil, ?_⟩⟩
  have registry := (evaluate_agree (tierEngine.withCache { maxEntries := 0 }) 0
    (tierEvent "a" "vip")).registry
  exact (readsAlike_iff registry.symm).mpr ((tierEvent_same _ "a" "b"))

end Witness

end Escalation.Engine
