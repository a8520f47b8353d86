import Escalation.Engine.Profile
import Escalation.Proofs.Engine.Answers
import Escalation.Proofs.Rule.Exhaustive

/-!
# All ways to evaluate agree

An engine can be asked about an event in four ways: for the match, for the outcome of all rules, for
a profile, and for the test of one rule. They order the rules by two different sorts, evaluate more
or fewer conditions, and find the match each in its own way; and the first may answer from the
cache. `Concordant` says in what they agree, and `run_concordant` that they do so after every run of
an engine, with a cache or without.

The two sorts agree because the profile sorts what the registry has sorted before, and a stable sort
leaves a sorted list as it is (`Registers.profile_order`). So does a profile of a plain list: it
sorts the list as the registry that was made of the list does.
-/

namespace Escalation

/-! ## Profiles -/

namespace Profile

variable {scope : Scope} {rules others : List Rule}

/-- A profile depends on the rules by the order in which it takes them. -/
theorem ofRules_congr (h : order rules = order others) :
    ofRules scope rules = ofRules scope others := by
  simp only [ofRules, h]

/-- The match of a profile is the first rule that holds. -/
theorem ofRules_firstMatch :
    (ofRules scope rules).firstMatch = (winner? scope (order rules)).map (·.name) := by
  have holds : ((·.matched) ∘ ofRule scope) = Rule.holds scope :=
    funext fun rule => rule.run_matched .exhaustive
  rw [ofRules, List.find?_map, Option.map_map, holds]
  rfl

/-- A profile says of each rule what its trace says. -/
theorem ofRules_perRule :
    (ofRules scope rules).perRule.map (fun p => (p.name, p.priority, p.matched, p.error)) =
      ((order rules).map fun rule => (rule.run .exhaustive scope).trace rule).map
        fun t => (t.ruleName, t.priority, t.matched, t.error) := by
  rw [ofRules, List.map_map, List.map_map]
  rfl

end Profile

namespace Registry

variable {r : Registry} {rules : List Rule}

/-- A profile of the registered rules takes them in the order of evaluation. -/
theorem Registers.profile_order (h : r.Registers rules) :
    Profile.order r.active.rules = r.active.rules.filter (·.enabled) := by
  have sorted : (evaluationOrder rules).Pairwise (byPriority · ·) :=
    List.pairwise_mergeSort byPriority_trans byPriority_total _
  change (r.active.rules.filter (·.enabled)).mergeSort byPriority = _
  rw [h.enabled]
  exact List.mergeSort_of_pairwise sorted

/-- A registry that is made of a list registers the list. -/
theorem registers_ofRules (h : ofRules rules = .ok r) : r.Registers rules :=
  registers_empty.apply (c := .replaceAll rules) h

end Registry

namespace Engine

open Registry (Change)

/-! ## What an answer has in common with the others -/

/-- **All that an engine tells of an event agrees with an outcome.** -/
structure Concordant (e : Engine) (event : Event) (o : Outcome) : Prop where
  /-- The outcome of all rules has the same match. -/
  matchedRule : o.matchedRule = (e.evaluateAll event).matchedRule
  matchedPriority : o.matchedPriority = (e.evaluateAll event).matchedPriority
  actions : o.actions = (e.evaluateAll event).actions
  /-- So has the profile. -/
  firstMatch : o.matchedRule = (e.profile event).firstMatch
  /-- The rules that are traced are the first of those that the outcome of all rules traces. -/
  traces : o.traces.map (fun t => (t.ruleName, t.priority, t.matched)) <+:
    (e.evaluateAll event).traces.map fun t => (t.ruleName, t.priority, t.matched)
  /-- The errors are among its errors, in the same order. -/
  errors : o.errors.Sublist (e.evaluateAll event).errors
  /-- The profile goes through the rules that it traces, and says the same of them. -/
  profiled : (e.profile event).perRule.map (fun p => (p.name, p.priority, p.matched, p.error)) =
    (e.evaluateAll event).traces.map fun t => (t.ruleName, t.priority, t.matched, t.error)
  /-- These are the enabled rules in the order of evaluation, and the test of each of them gives
  what its trace says. -/
  tested : List.Forall₂
    (fun rule t => t.ruleName = rule.name ∧ t.priority = rule.priority ∧
      (e.testRule rule event).matched = t.matched ∧
      (e.testRule rule event).conditions = t.conditions ∧
      (e.testRule rule event).error = t.error)
    (e.registry.active.rules.filter (·.enabled)) (e.evaluateAll event).traces

variable {e : Engine} {event : Event}

/-- The mark that an outcome was kept is no matter. -/
theorem Concordant.marked {o : Outcome} (h : e.Concordant event o) (hit : Bool) :
    e.Concordant event { o with cacheHit := hit } :=
  { h with }

/-- **The walk over the present rules agrees with all else**, if the registry keeps its rules in
order. -/
theorem walk_concordant {rules : List Rule} (registers : e.registry.Registers rules)
    (event : Event) : e.Concordant event (e.walk event) := by
  have order := registers.profile_order
  have fast : FirstMatch (e.scope event) (e.registry.active.rules.filter (·.enabled))
      (e.walk event) := walkRules_firstMatch _ _
  have all : AllRules (e.scope event) (e.registry.active.rules.filter (·.enabled))
      (e.evaluateAll event) := walkRules_exhaustive _ _
  have matched : ∀ rule : Rule,
      (rule.run .exhaustive (e.scope event)).matched = rule.holds (e.scope event) :=
    Rule.run_matched .exhaustive
  refine
    { matchedRule := fast.matchedRule.trans all.matchedRule.symm
      matchedPriority := fast.matchedPriority.trans all.matchedPriority.symm
      actions := fast.actions.trans all.actions.symm
      firstMatch := ?_, traces := ?_, errors := ?_, profiled := ?_, tested := ?_ }
  · rw [fast.matchedRule, profile, Profile.ofRules_firstMatch, order]
  · rw [fast.traces, map_upToWinner fun rule holds => (rule.name, rule.priority, holds), all.traces,
      List.map_map]
    have names : ((fun t : RuleTrace => (t.ruleName, t.priority, t.matched)) ∘
        fun rule : Rule => (rule.run .exhaustive (e.scope event)).trace rule) =
          fun rule => (rule.name, rule.priority, rule.holds (e.scope event)) :=
      funext fun rule => by simp only [Function.comp, RuleMatch.trace, matched]
    rw [names]
    exact (upToWinner_initial _).map _
  · rw [fast.errors, all.errors]
    exact ((upToWinner_initial _).sublist.filterMap _).trans
      (filterMap_sublist (fun _ _ => Rule.run_exhaustive_diagnostic) _)
  · rw [profile, Profile.ofRules_perRule, order, all.traces]
  · rw [all.traces, List.forall₂_map_right_iff]
    exact List.forall₂_same.mpr fun rule _ => ⟨rfl, rfl, rfl, rfl, rfl⟩

/-! ## After every run -/

/-- The engine with an empty cache of these settings, or without one. -/
def withSettings (e : Engine) (settings : Option CacheSettings) : Engine :=
  { e with cache := settings.map .ofSettings }

/-- What is asked of a cache for the answers of a run to be right: the outcome of the last
evaluation can be stored, the registry is changed fewer times than there are versions, and the
digest tells the inputs of the run apart. -/
structure Reliable (e : Engine) (settings : CacheSettings) (steps : List Step) (now : Nat)
    (event : Event) : Prop where
  fits : now + 1000000000 * settings.ttlSeconds < lastInstant
  few : (changes steps).length < 2 ^ 64
  distinct : Distinguishes e.digest
    ((e.withCache settings).inputs (steps ++ [.evaluate now event]))

/-- **After every run an evaluation answers with the walk over the present rules**, from the cache
or not. -/
theorem run_evaluate {settings : Option CacheSettings} {steps : List Step} {now : Nat}
    (reliable : ∀ s ∈ settings, e.Reliable s steps now event) :
    ∃ hit, (((e.withSettings settings).run steps).evaluate now event).1 =
      .ok { ((e.withSettings settings).run steps).walk event with cacheHit := hit } := by
  cases settings with
  | none =>
    have uncached : ((e.withSettings none).run steps).cache = none := run_uncached rfl steps
    rw [evaluate_uncached uncached]
    exact ⟨_, rfl⟩
  | some s =>
    obtain ⟨fits, few, distinct⟩ := reliable s rfl
    have empty : (e.withSettings (some s)).cache = (some s).map .ofSettings := rfl
    rcases run_answers empty few distinct with ⟨hit, answer⟩ | ⟨-, full, -⟩
    · exact ⟨hit, answer⟩
    · refine absurd ((run_stores_iff empty steps now).mpr ?_) full
      rintro _ ⟨⟩
      exact fits

section Witness

/-- Two events of one run that are one input. -/
theorem tierEngine_reliable :
    tierEngine.Reliable {} [.evaluate 0 (tierEvent "a" "vip")] 1 (tierEvent "b" "vip") where
  fits := by decide
  few := by decide
  distinct := tierEvents_distinguished _

end Witness

end Engine

end Escalation
