import Escalation.Engine.Profile
import Escalation.Proofs.Cache.Stats
import Escalation.Proofs.Engine.Answers
import Escalation.Proofs.Keyed
import Mathlib.Algebra.GroupWithZero.Nat

/-!
# What an engine counts

An engine counts its evaluations twice: its metrics by how they ended, its cache by whether it had
the outcome. `Tally` says what both must show for a list of answers, and `serveAll_tally` that they
do so after every run of an engine that began with neither.

Evaluations are the only calls that count (`Call`): changes of the rules, settings of the clock and
clearings of the cache leave both counts alone, and what else can be asked of an engine leaves the
engine as it is. An evaluation with an answer counts once in each place, whether the outcome was
kept, had expired or was never there (`evaluate_counts`).

Counters are words of 64 bits, so they show a number of answers as a word.
-/

namespace Escalation

/-! ## Counters -/

namespace Metrics

variable (m : Metrics) (name other : String)

theorem counter_setCounter (value : UInt64) :
    (m.setCounter name value).counter other = if name = other then value else m.counter other := by
  simp only [counter, setCounter, Keyed.find?_insert]
  split <;> rfl

theorem counter_add (n : UInt64) :
    (m.add name n).counter other = m.counter other + if name = other then n else 0 := by
  rw [add, counter_setCounter]
  split
  · next same => rw [same]
  · rw [UInt64.add_zero]

theorem histogram_setHistogram (h : Histogram) : (m.setHistogram name h).histogram name = h := by
  simp only [histogram, setHistogram, Keyed.find?_insert, if_true, Option.getD_some]

/-- **What recording an evaluation does to a counter**: the counters concerned are raised, and
nothing else is. -/
theorem counter_record (isMatch cacheHit : Bool) (errors micros : Nat) :
    (m.record isMatch cacheHit errors micros).counter other =
      m.counter other + (if evaluations = other then 1 else 0) +
        (if (if isMatch then matchCount else noMatch) = other then 1 else 0) +
        (if cacheHit ∧ cacheHits = other then 1 else 0) +
        (if ruleErrors = other then .ofNat errors else 0) := by
  have latencies (m : Metrics) (h : Histogram) :
      (m.setHistogram latency h).counter other = m.counter other := rfl
  have hits (m : Metrics) : (if cacheHit then m.increment cacheHits else m).counter other =
      m.counter other + (if cacheHit ∧ cacheHits = other then 1 else 0) := by
    cases cacheHit with
    | true => simp only [increment, counter_add, if_true, true_and]
    | false => simp only [Bool.false_eq_true, if_false, false_and, UInt64.add_zero]
  have failures (m : Metrics) :
      (if errors == 0 then m else m.add ruleErrors errors.toUInt64).counter other =
        m.counter other + (if ruleErrors = other then .ofNat errors else 0) := by
    split
    · next none =>
      rw [beq_iff_eq.mp none]
      split <;> exact (UInt64.add_zero _).symm
    · exact counter_add m _ _ _
  simp only [record, latencies, failures, hits]
  simp only [increment, counter_add]

/-- Recording an evaluation puts one duration into the histogram. -/
theorem latency_record (isMatch cacheHit : Bool) (errors micros : Nat) :
    ((m.record isMatch cacheHit errors micros).histogram latency).count =
      (m.histogram latency).count + 1 := by
  have counters (m : Metrics) (name : String) (n : UInt64) :
      (m.add name n).histogram latency = m.histogram latency := rfl
  simp only [record, histogram_setHistogram, Histogram.observeMicros, Histogram.observe]
  congr 2
  split <;> split <;> simp only [increment, counters]

/-- **An evaluation has been counted**: by how it ended, by whether its outcome was kept, and by its
errors. -/
structure Recorded (m next : Metrics) (isMatch cacheHit : Bool) (errors : Nat) : Prop where
  evaluations : next.counter Metrics.evaluations = m.counter Metrics.evaluations + 1
  matchCount : next.counter Metrics.matchCount =
    m.counter Metrics.matchCount + if isMatch then 1 else 0
  noMatch : next.counter Metrics.noMatch = m.counter Metrics.noMatch + if isMatch then 0 else 1
  cacheHits : next.counter Metrics.cacheHits =
    m.counter Metrics.cacheHits + if cacheHit then 1 else 0
  ruleErrors : next.counter Metrics.ruleErrors = m.counter Metrics.ruleErrors + .ofNat errors
  latency : (next.histogram Metrics.latency).count = (m.histogram Metrics.latency).count + 1

/-- **Recording an evaluation counts it.** No two counters have one name. -/
theorem record_recorded (isMatch cacheHit : Bool) (errors micros : Nat) :
    m.Recorded (m.record isMatch cacheHit errors micros) isMatch cacheHit errors := by
  refine ⟨?_, ?_, ?_, ?_, ?_, m.latency_record isMatch cacheHit errors micros⟩
  all_goals
    rw [counter_record]
    cases isMatch <;> simp [evaluations, matchCount, noMatch, cacheHits, ruleErrors]

end Metrics

namespace Engine

/-! ## Calls -/

/-- What can be asked of an engine. -/
inductive Call where
  | step (s : Step)
  | evaluateAll (event : Event)
  | profile (event : Event)
  | testRule (rule : Rule) (event : Event)

/-- The engine after a call. Only the steps of a run change it. -/
def serve (e : Engine) : Call → Engine
  | .step s => e.step s
  | .evaluateAll _ | .profile _ | .testRule _ _ => e

/-- The engine after a list of calls, one after the other. -/
def serveAll (e : Engine) (calls : List Call) : Engine :=
  calls.foldl serve e

/-- What a call answers, if it is an evaluation. -/
def answer? (e : Engine) : Call → Option (Except StoreFault Outcome)
  | .step (.evaluate now event) => some (e.evaluate now event).1
  | _ => none

/-- What the evaluations among some calls answer, in order. -/
def answers (e : Engine) : List Call → List (Except StoreFault Outcome)
  | [] => []
  | c :: calls => (e.answer? c).toList ++ answers (e.serve c) calls

/-- Whether a call is an evaluation. -/
def Call.isEvaluation : Call → Bool
  | .step (.evaluate _ _) => true
  | _ => false

/-- Every evaluation answers once. -/
theorem answers_length (e : Engine) (calls : List Call) :
    (e.answers calls).length = calls.countP (·.isEvaluation) := by
  induction calls generalizing e with
  | nil => rfl
  | cons c calls ih =>
    rw [answers, List.length_append, ih, List.countP_cons, Nat.add_comm]
    congr 1
    cases c with
    | step s => cases s <;> rfl
    | evaluateAll event | profile event | testRule rule event => rfl

/-! ## Counts -/

/-- **What metrics and a cache show of a list of answers.** -/
structure Tally (m : Metrics) (s : CacheStats) (os : List Outcome) : Prop where
  evaluations : m.counter Metrics.evaluations = .ofNat os.length
  lookups : s.hits + s.misses = os.length
  matchCount : m.counter Metrics.matchCount = .ofNat (os.countP (·.isMatch))
  noMatch : m.counter Metrics.matchCount + m.counter Metrics.noMatch = .ofNat os.length
  latencies : (m.histogram Metrics.latency).count = os.length
  hits : s.hits = os.countP (·.cacheHit)
  cacheHits : m.counter Metrics.cacheHits = .ofNat s.hits
  inserts : s.inserts = s.misses
  ruleErrors : m.counter Metrics.ruleErrors = .ofNat (os.map (·.errors.length)).sum

/-- Where nothing was counted nothing was answered. -/
theorem tally_nil : Tally .empty {} [] :=
  ⟨rfl, rfl, rfl, rfl, rfl, rfl, rfl, rfl, rfl⟩

/-- An answer more counts once in the metrics and once in the cache. -/
theorem Tally.snoc {m : Metrics} {s t : CacheStats} {os : List Outcome} (h : Tally m s os)
    (o : Outcome) (hits : t.hits = s.hits + if o.cacheHit then 1 else 0)
    (misses : t.misses = s.misses + if o.cacheHit then 0 else 1)
    (inserts : t.inserts = s.inserts + if o.cacheHit then 0 else 1) :
    Tally (m.record o.isMatch o.cacheHit o.errors.length 0) t (os ++ [o]) := by
  have ofNat_add (n : Nat) (b : Bool) : UInt64.ofNat (n + if b then 1 else 0) =
      .ofNat n + if b then 1 else 0 := by
    rw [UInt64.ofNat_add]
    split <;> rfl
  have length : (os ++ [o]).length = os.length + 1 := List.length_append
  have count (p : Outcome → Bool) : (os ++ [o]).countP p = os.countP p + if p o then 1 else 0 := by
    rw [List.countP_append, List.countP_singleton]
  have recorded := m.record_recorded o.isMatch o.cacheHit o.errors.length 0
  constructor
  · rw [recorded.evaluations, h.evaluations, length, UInt64.ofNat_add]
    rfl
  · rw [hits, misses, length, ← h.lookups]
    cases o.cacheHit <;> simp only [Bool.false_eq_true, if_true, if_false] <;> omega
  · rw [recorded.matchCount, h.matchCount, count, ofNat_add]
  · rw [recorded.matchCount, recorded.noMatch, length, UInt64.ofNat_add, ← h.noMatch]
    cases o.isMatch <;> simp only [Bool.false_eq_true, if_true, if_false] <;> grind
  · rw [recorded.latency, h.latencies, length]
  · rw [hits, h.hits, count]
  · rw [recorded.cacheHits, h.cacheHits, hits, ofNat_add]
  · rw [inserts, misses, h.inserts]
  · rw [recorded.ruleErrors, h.ruleErrors, List.map_append, List.sum_append, UInt64.ofNat_add]
    rfl

/-- The metrics and the cache of an engine show a list of answers. -/
def Counts (e : Engine) (os : List Outcome) : Prop :=
  ∃ m cache, e.metrics = some m ∧ e.cache = some cache ∧ Tally m cache.stats os

variable {e : Engine} {os : List Outcome}

/-- **An evaluation with an answer is counted**, whether the outcome was kept or not. -/
theorem evaluate_counts (h : e.Counts os) {now : Nat} {event : Event} {o : Outcome}
    (answer : (e.evaluate now event).1 = .ok o) :
    (e.evaluate now event).2.Counts (os ++ [o]) := by
  obtain ⟨m, cache, metrics, present, tally⟩ := h
  rcases evaluate_cases present now event with
    ⟨kept, found, eq⟩ | ⟨none, -, stored, put, eq⟩ | ⟨-, -, eq⟩
  · rw [eq] at answer ⊢
    cases answer
    have stats := Cache.get_stats_of_some found
    refine ⟨m.record kept.isMatch true kept.errors.length 0, _, ?_, rfl, ?_⟩
    · simp only [recorded, metrics, Option.map_some]
    · refine tally.snoc { kept with cacheHit := true } ?_ ?_ ?_
      all_goals
        rw [stats]
        rfl
  · rw [eq] at answer ⊢
    cases answer
    obtain ⟨hits, misses, inserts⟩ := Cache.put_stats put
    obtain ⟨hits', misses', inserts'⟩ := Cache.get_stats_of_none none
    have fresh : (e.walk event).cacheHit = false := RuleSet.walkRules_cacheHit .fast _ _
    refine ⟨m.record (e.walk event).isMatch false (e.walk event).errors.length 0, _, ?_, rfl, ?_⟩
    · simp only [recorded, metrics, Option.map_some]
    · have next := tally.snoc (e.walk event) (t := stored.stats)
      rw [fresh] at next
      exact next (hits.trans hits') (misses.trans misses')
        (inserts.trans (congrArg (· + 1) inserts'))
  · rw [eq] at answer
    cases answer

/-- A call that is no evaluation is not counted. -/
theorem serve_counts (h : e.Counts os) {c : Call} (silent : e.answer? c = none) :
    (e.serve c).Counts os := by
  cases c with
  | evaluateAll event | profile event | testRule rule event => exact h
  | step s =>
    obtain ⟨m, cache, metrics, present, tally⟩ := h
    cases s with
    | change c =>
      refine ⟨m, cache, ?_, ?_, tally⟩
      · simpa only [serve, step, change_eq] using metrics
      · simpa only [serve, step, change_eq] using present
    | setClock clock => exact ⟨m, cache, metrics, present, tally⟩
    | clearCache =>
      refine ⟨m, cache.clear, metrics, ?_, tally⟩
      simp only [serve, step, clearCache, present, Option.map_some]
    | evaluate now event => cases silent

/-- **A run counts its answers.** The induction is on the calls, with the answers before them. -/
theorem serveAll_counts {before : List Outcome} (h : e.Counts before) {calls : List Call}
    (answered : e.answers calls = os.map .ok) : (e.serveAll calls).Counts (before ++ os) := by
  induction calls generalizing e before os with
  | nil =>
    rw [List.map_eq_nil_iff.mp answered.symm, List.append_nil]
    exact h
  | cons c calls ih =>
    have next : (e.serveAll (c :: calls)) = (e.serve c).serveAll calls := rfl
    rw [answers] at answered
    rw [next]
    cases answer : e.answer? c with
    | none =>
      rw [answer] at answered
      exact ih (serve_counts h answer) answered
    | some result =>
      rw [answer] at answered
      cases os with
      | nil => cases answered
      | cons o os =>
        obtain ⟨rfl, rest⟩ := List.cons.inj answered
        have counted : (e.serve c).Counts (before ++ [o]) := by
          cases c with
          | step s =>
            cases s with
            | evaluate now event => exact evaluate_counts h (Option.some.inj answer)
            | change c | setClock clock | clearCache => cases answer
          | evaluateAll event | profile event | testRule rule event => cases answer
        rw [List.append_cons]
        exact ih counted rest

/-- **Metrics and cache agree about every run.** An engine begins with fresh metrics and an empty
cache of any settings, and every evaluation of the run has an answer: then the answers are as many
as the evaluations, and both show them. -/
theorem serveAll_tally {settings : CacheSettings} (metrics : e.metrics = some .empty)
    (cache : e.cache = some (.ofSettings settings)) {calls : List Call}
    (answered : e.answers calls = os.map .ok) :
    os.length = calls.countP (·.isEvaluation) ∧
      ∃ m c, (e.serveAll calls).metrics = some m ∧ (e.serveAll calls).cache = some c ∧
        Tally m c.stats os := by
  constructor
  · rw [← e.answers_length, answered, List.length_map]
  · exact serveAll_counts ⟨.empty, _, metrics, cache, tally_nil⟩ answered

/-- Every evaluation of a run has an answer if what it gives can be stored when it is asked. -/
theorem answers_of_stores {settings : CacheSettings} {cache : Cache} (present : e.cache = some cache)
    (kept : cache.settings = settings) {calls : List Call}
    (fits : ∀ now event, .step (.evaluate now event) ∈ calls →
      now + 1000000000 * settings.ttlSeconds < lastInstant) :
    ∃ os : List Outcome, e.answers calls = os.map .ok := by
  induction calls generalizing e cache with
  | nil => exact ⟨[], rfl⟩
  | cons c calls ih =>
    have later := fun now event mem => fits now event (List.mem_cons_of_mem _ mem)
    cases c with
    | evaluateAll event | profile event | testRule rule event => exact ih present kept later
    | step s =>
      cases s with
      | change c => exact ih (by simpa only [serve, step, change_eq] using present) kept later
      | setClock clock => exact ih (e := e.setClock clock) present kept later
      | clearCache =>
        have cleared : e.clearCache.cache = some cache.clear := by
          simp only [clearCache, present, Option.map_some]
        exact ih cleared kept later
      | evaluate now event =>
        obtain ⟨next, after, same, -⟩ := evaluate_keeps present now event
        obtain ⟨os, rest⟩ := ih (e := (e.evaluate now event).2) after (same.trans kept) later
        have stores : cache.Stores now := by
          rw [Cache.Stores, kept]
          exact fits now event List.mem_cons_self
        have first : e.answers (.step (.evaluate now event) :: calls) =
            (e.evaluate now event).1 :: (e.evaluate now event).2.answers calls := rfl
        obtain ⟨o, answer⟩ : ∃ o, (e.evaluate now event).1 = .ok o := by
          rcases evaluate_cases present now event with
            ⟨_, -, eq⟩ | ⟨-, -, _, -, eq⟩ | ⟨-, full, -⟩
          · exact ⟨_, congrArg Prod.fst eq⟩
          · exact ⟨_, congrArg Prod.fst eq⟩
          · exact absurd stores full
        exact ⟨o :: os, by rw [first, answer, rest, List.map_cons]⟩

section Witness

/-- Two evaluations, with other calls between them. -/
def tierCalls : List Call :=
  [.step (.evaluate 0 (tierEvent "a" "vip")), .evaluateAll (tierEvent "a" "vip"),
    .step (.change (.remove "vip")), .step .clearCache, .profile (tierEvent "b" "vip"),
    .step (.evaluate 1 (tierEvent "b" "vip"))]

theorem tierCalls_fit {now : Nat} {event : Event}
    (h : .step (.evaluate now event) ∈ tierCalls) : now + 1000000000 * 300 < lastInstant := by
  have early : now ≤ 1 := by
    simp only [tierCalls, List.mem_cons, Call.step.injEq, Step.evaluate.injEq, reduceCtorEq,
      List.not_mem_nil, false_or, or_false] at h
    omega
  exact Nat.lt_of_le_of_lt (Nat.add_le_add_right early _) (by decide)

/-- They are counted as two evaluations and two lookups. -/
theorem tierEngine_tally : ∃ os : List Outcome,
    ({ tierEngine with metrics := some .empty } : Engine).answers tierCalls = os.map .ok ∧
      ∃ m c, (({ tierEngine with metrics := some .empty } : Engine).serveAll tierCalls).metrics =
          some m ∧
        (({ tierEngine with metrics := some .empty } : Engine).serveAll tierCalls).cache = some c ∧
        m.counter Metrics.evaluations = 2 ∧ c.stats.hits + c.stats.misses = 2 := by
  have ⟨os, answered⟩ : ∃ os : List Outcome,
      ({ tierEngine with metrics := some .empty } : Engine).answers tierCalls = os.map .ok :=
    answers_of_stores rfl rfl fun _ _ h => tierCalls_fit h
  obtain ⟨count, m, c, metrics, cache, tally⟩ := serveAll_tally rfl rfl answered
  have two : os.length = 2 := count.trans rfl
  refine ⟨os, answered, m, c, metrics, cache, ?_, ?_⟩
  · rw [tally.evaluations, two]
    rfl
  · rw [tally.lookups, two]

end Witness

end Engine

end Escalation
