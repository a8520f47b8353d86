import Escalation.Outcome

/-!
# The first rule that holds

A condition holds if it evaluates to true; one that cannot be decided does not hold. A rule holds if
all its conditions do, so a rule without conditions always does. The rules of an evaluation stand in
an order, and the first that holds decides.

`FirstMatch` says what an outcome tells of this: the name, priority and actions of the rule that
decides, a trace for each rule up to it, and the errors of the rules passed over. The law is that
the fast walk gives such an outcome for every list of rules (`walkRules_firstMatch`). It rests on
two facts about one rule: it matches exactly if it holds (`Rule.run_matched`), and its error is that
of its first condition that does not hold, if that one could not be decided
(`Rule.run_fast_diagnostic`).
-/

namespace Escalation

variable {scope : Scope}

/-! ## One rule -/

/-- Whether a condition holds in a scope. -/
def Condition.holds (scope : Scope) (c : Condition) : Bool :=
  match (c.evaluate scope).verdict with
  | .ok result => result
  | .error _ => false

namespace Rule

open Condition (PatternKey)

/-- Whether all conditions of a rule hold. -/
def holds (scope : Scope) (rule : Rule) : Bool :=
  rule.conditions.all (·.holds scope)

/-- The error of the first condition that does not hold, counted from a number on, if that one
could not be decided. -/
def diagnose (scope : Scope) (name : String) : Nat → List Condition → Option Diagnostic
  | _, [] => none
  | index, c :: cs =>
    match (c.evaluate scope).verdict with
    | .ok true => diagnose scope name (index + 1) cs
    | .ok false => none
    | .error cause => some ⟨name, some index, cause.message⟩

/-- The error of a rule. -/
def diagnosis? (scope : Scope) (rule : Rule) : Option Diagnostic :=
  diagnose scope rule.name 0 rule.conditions

theorem holds_iff {rule : Rule} :
    rule.holds scope = true ↔ ∀ c ∈ rule.conditions, (c.evaluate scope).verdict = .ok true := by
  refine List.all_eq_true.trans (forall₂_congr fun c _ => ?_)
  unfold Condition.holds
  cases (c.evaluate scope).verdict with
  | ok result => exact ⟨congrArg Except.ok, Except.ok.inj⟩
  | error cause => exact ⟨nofun, nofun⟩

/-- The traces tell whether all conditions hold, also if they end at the first that does not. -/
theorem tracesWith_all (compile : PatternKey → Option Pattern) (thoroughness : Thoroughness)
    (conditions : List Condition) : ∀ index,
    (tracesWith compile thoroughness scope index conditions).all (·.result) =
      conditions.all fun c => (c.trace 0 (c.evaluateWith compile scope)).result := by
  induction conditions with
  | nil => exact fun _ => rfl
  | cons c cs ih =>
    intro index
    have result : (c.trace index (c.evaluateWith compile scope)).result =
        (c.trace 0 (c.evaluateWith compile scope)).result := rfl
    simp only [tracesWith, result, List.all_cons]
    cases holds : (c.trace 0 (c.evaluateWith compile scope)).result with
    | false => split <;> simp only [List.all_cons, result, holds, Bool.false_and]
    | true =>
      simp only [Bool.not_true, Bool.and_false, Bool.false_eq_true, if_false, List.all_cons, result,
        holds, ih]

/-- **A rule matches exactly if it holds**, however many of its conditions are evaluated. -/
theorem run_matched (thoroughness : Thoroughness) (rule : Rule) :
    (rule.run thoroughness scope).matched = rule.holds scope :=
  tracesWith_all PatternKey.compile? thoroughness rule.conditions 0

theorem traces_fast_findSome? (name : String) (conditions : List Condition) : ∀ index,
    (tracesWith PatternKey.compile? .fast scope index conditions).findSome? (·.diagnostic? name) =
      diagnose scope name index conditions := by
  induction conditions with
  | nil => exact fun _ => rfl
  | cons c cs ih =>
    intro index
    simp only [tracesWith, diagnose, Condition.trace, Condition.evaluate]
    cases (c.evaluateWith PatternKey.compile? scope).verdict with
    | error cause => rfl
    | ok result =>
      cases result with
      | false => rfl
      | true => exact ih (index + 1)

/-- **The error of a rule on the fast path** is that of its first condition that does not hold, if
that one could not be decided. -/
theorem run_fast_diagnostic (rule : Rule) :
    (rule.run .fast scope).diagnostic = rule.diagnosis? scope :=
  traces_fast_findSome? rule.name rule.conditions 0

end Rule

/-! ## Rules in order -/

/-- The first rule that holds. -/
def winner? (scope : Scope) (order : List Rule) : Option Rule :=
  order.find? (·.holds scope)

/-- The rules before the first that holds; all of them if none does. -/
def passedOver (scope : Scope) (order : List Rule) : List Rule :=
  order.takeWhile (!·.holds scope)

/-- **An outcome tells of the first rule that holds**, and of those passed over on the way. -/
structure FirstMatch (scope : Scope) (order : List Rule) (o : Outcome) : Prop where
  matchedRule : o.matchedRule = (winner? scope order).map (·.name)
  matchedPriority : o.matchedPriority = (winner? scope order).map (·.priority)
  actions : o.actions = ((winner? scope order).map (·.actions)).getD []
  traces : o.traces.map (fun t => (t.ruleName, t.priority, t.matched)) =
    (passedOver scope order).map (fun r => (r.name, r.priority, false)) ++
      (winner? scope order).toList.map fun r => (r.name, r.priority, true)
  errors : o.errors =
    (passedOver scope order ++ (winner? scope order).toList).filterMap (·.diagnosis? scope)

theorem filterMap_cons_toList {α β : Type} (f : α → Option β) (a : α) (as : List α) :
    (a :: as).filterMap f = (f a).toList ++ as.filterMap f := by
  rw [List.filterMap_cons]
  cases f a <;> rfl

/-- **The fast walk ends at the first rule that holds.** -/
theorem walkRules_firstMatch (version : UInt64) (rules : List Rule) :
    FirstMatch scope rules (RuleSet.walkRules .fast scope version rules) := by
  induction rules with
  | nil => exact ⟨rfl, rfl, rfl, rfl, rfl⟩
  | cons rule rules ih =>
    have matched : (rule.run .fast scope).matched = rule.holds scope := rule.run_matched .fast
    have diagnostic : (rule.run .fast scope).diagnostic = rule.diagnosis? scope :=
      rule.run_fast_diagnostic
    unfold RuleSet.walkRules
    cases holds : rule.holds scope with
    | true =>
      rw [holds] at matched
      have winner : winner? scope (rule :: rules) = some rule := List.find?_cons_of_pos holds
      have passed : passedOver scope (rule :: rules) = [] := by
        simp only [passedOver, List.takeWhile_cons, holds, Bool.not_true, Bool.false_eq_true,
          if_false]
      simp only [matched, Bool.true_and, decide_true, if_true]
      refine ⟨?_, ?_, ?_, ?_, ?_⟩
      · rw [winner]; rfl
      · rw [winner]; rfl
      · rw [winner]; rfl
      · rw [winner, passed]
        change [(rule.name, rule.priority, (rule.run .fast scope).matched)] = _
        rw [matched]
        rfl
      · rw [winner, passed, List.nil_append]
        change (rule.run .fast scope).diagnostic.toList ++ [] = [rule].filterMap _
        rw [diagnostic, filterMap_cons_toList]
        rfl
    | false =>
      rw [holds] at matched
      have winner : winner? scope (rule :: rules) = winner? scope rules :=
        List.find?_cons_of_neg (by simp [holds])
      have passed : passedOver scope (rule :: rules) = rule :: passedOver scope rules := by
        simp only [passedOver, List.takeWhile_cons, holds, Bool.not_false, if_true]
      simp only [matched, Bool.false_and, Bool.false_eq_true, if_false]
      refine ⟨?_, ?_, ?_, ?_, ?_⟩
      · rw [winner]
        exact ih.matchedRule
      · rw [winner]
        exact ih.matchedPriority
      · rw [winner]
        exact ih.actions
      · rw [winner, passed, List.map_cons, List.cons_append, ← ih.traces]
        change (rule.name, rule.priority, (rule.run .fast scope).matched) :: _ = _
        rw [matched]
      · rw [winner, passed, List.cons_append, filterMap_cons_toList, ← ih.errors, ← diagnostic]
        rfl

/-- An outcome carries the version of its rules. -/
theorem RuleSet.walkRules_version (thoroughness : Thoroughness) (version : UInt64)
    (rules : List Rule) :
    (walkRules thoroughness scope version rules).version = version := by
  induction rules with
  | nil => rfl
  | cons rule rules ih =>
    unfold walkRules
    simp only
    split <;> split <;> first | rfl | exact ih

end Escalation
