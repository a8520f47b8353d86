import Escalation.Proofs.Condition.Validity
import Escalation.Proofs.Router.Run

/-!
# Requests without an answer

A router answers a request unless the outcome has to be stored and its time would end after the
clock. That depends on the settings of the cache with which the router was built, on the instant,
and on whether an outcome is kept (`answers_iff`). What a run does has a part in it only by what it
leaves in the cache: neither a change of the rules nor a reload changes the settings. A router
without a cache always answers, and so does one whose outcomes expire before the clock ends.

Any number of seconds is accepted as the time of an outcome, in a rule book as well as in the
settings. A book with the greatest one makes a router that answers no first request
(`endless_unanswered`).
-/

namespace Escalation.Router

open Registry (Change)

variable {r : Router} {supply : Supply} {plan : Plan}

/-- An outcome that is stored now expires before the clock ends, or none is stored. -/
def Fits (cache : Option CacheSettings) (now : Nat) : Prop :=
  ∀ s ∈ cache, now + 1000000000 * s.ttlSeconds < lastInstant

/-- Along a run, whether an outcome can be stored is decided by the plan. -/
theorem Built.run_stores_iff (built : Built supply plan r) (steps : List Step) (now : Nat) :
    (r.run steps).engine.Stores now ↔ Fits (plan.cache? supply) now := by
  rw [run_engine]
  exact Engine.run_stores_iff built.cache _ now

/-- **A request has no answer exactly where none is kept and none can be stored.** -/
theorem route_fails_iff {now : Nat} {fresh : String} {request : Request} :
    (r.route now fresh request).1 = .error .beyondClock ↔
      r.engine.Misses now request.event ∧ ¬ r.engine.Stores now := by
  rw [route_fst, map_eq_error, Engine.evaluate_fails_iff]

/-- There is one fault, so what does not fail with it has an answer. -/
theorem answered_iff {α : Type} {answer : Except StoreFault α} :
    (∃ a, answer = .ok a) ↔ answer ≠ .error .beyondClock := by
  cases answer with
  | ok a => simp
  | error fault => cases fault; simp

/-- A rule is tested by its name exactly if it is registered. -/
theorem testRegistered_answered_iff {name : String} {event : Event} :
    (∃ test, r.testRegistered name event = .ok test) ↔ name ∈ r.rules.map (·.name) := by
  have found : (r.engine.registry.active.find? name).isSome = true ↔
      name ∈ r.rules.map (·.name) := by
    rw [RuleSet.find?, List.find?_isSome, List.mem_map]
    simp only [beq_iff_eq]
    rfl
  rw [← found, testRegistered]
  cases r.engine.registry.active.find? name <;> simp

/-- **When a router answers.** After any run of a router that has been built, a request or an event
is answered exactly if an outcome is kept for it, or one that is stored now expires before the clock
ends, or there is no cache; and else there is the one fault. The test of a registered rule has an
answer always, and the outcome of all rules and the profile have no other answers than results. -/
theorem answers_iff (built : build supply plan = .ok r) (steps : List Step) (now : Nat) :
    (∀ fresh request, (∃ response, ((r.run steps).route now fresh request).1 = .ok response) ↔
      Fits (plan.cache? supply) now ∨ ¬ (r.run steps).engine.Misses now request.event) ∧
    (∀ event, (∃ o, ((r.run steps).evaluate now event).1 = .ok o) ↔
      Fits (plan.cache? supply) now ∨ ¬ (r.run steps).engine.Misses now event) ∧
    ∀ name event, (∃ test, (r.run steps).testRegistered name event = .ok test) ↔
      name ∈ (r.run steps).rules.map (·.name) := by
  have stores := (build_spec built).run_stores_iff steps now
  refine ⟨fun fresh request => ?_, fun event => ?_, fun name event => testRegistered_answered_iff⟩
  · rw [answered_iff, ne_eq, route_fails_iff, stores, not_and_or, not_not, or_comm]
  · change (∃ o, ((r.run steps).engine.evaluate now event).1 = .ok o) ↔ _
    rw [answered_iff, ne_eq, Engine.evaluate_fails_iff, stores, not_and_or, not_not, or_comm]

section Witness

/-- Nothing can be read but what a plan holds itself. -/
def nothing : Supply :=
  ⟨fun _ => none, fun id => .error (.load id)⟩

/-- A plan with one rule book in memory. -/
def bookPlan (content : String) : Plan where
  settings := { ruleContents := [("a", content)] }
  clock := ⟨0, 0⟩

/-- A request about nothing. -/
def blankRequest : Request where
  context := {}

/-- The cache that a rule book without rules asks for. -/
def bareCache? (content : String) : Option CacheSettings :=
  match RuleBook.load "a" .yaml content with
  | .ok book => if book.rules.isEmpty then (bookPlan content).settings.cache? (some book) else none
  | .error _ => none

/-- A plan with a rule book without rules is built to a router without rules. -/
theorem bookPlan_build {content : String} {cache : CacheSettings}
    (bare : bareCache? content = some cache) :
    build nothing (bookPlan content) =
        .ok ((bookPlan content).over (some cache) (Change.perform .empty (.replaceAll []))) ∧
      (bookPlan content).cache? nothing = some cache := by
  unfold bareCache? at bare
  split at bare
  · next book loaded =>
    split at bare
    · next none =>
      have books : Source.loadAll nothing (bookPlan content).allSources = .ok [book] := by
        change (RuleBook.load "a" .yaml content).bind (fun b => Except.ok [b]) = .ok [book]
        rw [loaded]
        rfl
      have asked : (bookPlan content).cache? nothing = some cache := by
        rw [Plan.cache?, books]
        exact bare
      have gathers : (bookPlan content).gathered nothing = .ok [] := by
        rw [Plan.gathered, collect, books]
        change approve (book.rules ++ [] ++ []) = .ok []
        rw [List.isEmpty_iff.mp none]
        rfl
      exact ⟨by rw [build_eq, gathers, asked]; rfl, asked⟩
    · cases bare
  · cases bare

/-- A router over a book without settings answers, after its rules were changed and reloaded. -/
theorem bookPlan_answers : ∃ r, build nothing (bookPlan "rules: []") = .ok r ∧
    ∃ response, ((r.run [.change (.add { name := "a" }), .reload nothing]).route 0 ""
      blankRequest).1 = .ok response := by
  have bare : bareCache? "rules: []" = some ⟨300, 10000⟩ := by decide +kernel
  obtain ⟨built, cache⟩ := bookPlan_build bare
  refine ⟨_, built, ((answers_iff built _ 0).1 "" blankRequest).mpr (.inl ?_)⟩
  rw [cache]
  rintro s ⟨⟩
  decide

/-- No outcome can be stored in an empty cache of the greatest time. -/
theorem endless_fails {r : Router} {maxEntries : Nat}
    (endless : r.engine.cache = some (.ofSettings ⟨18446744073709551615, maxEntries⟩))
    (event : Event) : (r.engine.evaluate 0 event).1 = .error .beyondClock := by
  refine Engine.evaluate_fails_iff.mpr ⟨?_, fun stores => ?_⟩
  · intro cache present
    cases endless.symm.trans present
    rfl
  · have fits : 0 + 1000000000 * 18446744073709551615 < lastInstant := stores _ endless
    exact absurd fits (by decide)

/-- A router over a book that asks for the greatest time. -/
theorem endlessBook_build : ∃ r,
    build nothing (bookPlan "cache_ttl_secs: 18446744073709551615") = .ok r ∧
      r.engine.cache = some (.ofSettings ⟨18446744073709551615, 10000⟩) := by
  have bare : bareCache? "cache_ttl_secs: 18446744073709551615" =
      some ⟨18446744073709551615, 10000⟩ := by decide +kernel
  exact ⟨_, (bookPlan_build bare).1, rfl⟩

/-- **A rule book may ask for outcomes that expire after the clock ends.** It is accepted, a router
is built, and the first request to it has no answer. -/
theorem endless_unanswered : ∃ r,
    build nothing (bookPlan "cache_ttl_secs: 18446744073709551615") = .ok r ∧
      (r.route 0 "" blankRequest).1 = .error .beyondClock := by
  obtain ⟨r, built, endless⟩ := endlessBook_build
  refine ⟨r, built, ?_⟩
  rw [route_fst, endless_fails endless]
  rfl

end Witness

end Escalation.Router
