import Escalation.Proofs.Rule.FirstMatch
import Mathlib.Data.List.TakeWhile

/-!
# Going through all rules

The exhaustive walk evaluates every condition of every rule and names the same match as the fast
one (`walkRules_exhaustive`). What it tells beside that goes beyond what the fast walk tells, in two
ways. It traces the rules behind the match. And the error of a rule is that of its first condition
that could not be decided, which may stand behind one that does not hold; the fast walk tells only
of an error that nothing false stands before. So an error of the fast walk is one of the exhaustive
walk (`Rule.run_exhaustive_diagnostic`), and not the other way round.

The rules that the fast walk meets are those up to the match (`upToWinner`), and they are a first
part of all.
-/

namespace Escalation

variable {scope : Scope}

/-! ## One rule -/

namespace Rule

/-- An error that nothing false stands before is the first one. -/
theorem traces_exhaustive_findSome? (name : String) {d : Diagnostic} (conditions : List Condition) :
    ∀ index, diagnose scope name index conditions = some d →
      (tracesWith Condition.PatternKey.compile? .exhaustive scope index conditions).findSome?
        (·.diagnostic? name) = some d := by
  induction conditions with
  | nil => exact fun _ h => h
  | cons c cs ih =>
    intro index h
    have trace : tracesWith Condition.PatternKey.compile? .exhaustive scope index (c :: cs) =
        c.trace index (c.evaluate scope) ::
          tracesWith Condition.PatternKey.compile? .exhaustive scope (index + 1) cs := rfl
    rw [trace, List.findSome?_cons]
    simp only [diagnose] at h
    cases verdict : (c.evaluate scope).verdict with
    | error cause =>
      rw [verdict] at h
      simp only [ConditionTrace.diagnostic?, Condition.trace, verdict]
      exact h
    | ok result =>
      rw [verdict] at h
      cases result with
      | false => cases h
      | true =>
        simp only [ConditionTrace.diagnostic?, Condition.trace, verdict]
        exact ih (index + 1) h

/-- **The error that a rule has on the fast path is its error.** -/
theorem run_exhaustive_diagnostic {rule : Rule} {d : Diagnostic}
    (h : rule.diagnosis? scope = some d) : (rule.run .exhaustive scope).diagnostic = some d :=
  traces_exhaustive_findSome? rule.name rule.conditions 0 h

end Rule

/-! ## Rules in order -/

/-- **An outcome tells of all rules**, and of the first that holds as the match. -/
structure AllRules (scope : Scope) (order : List Rule) (o : Outcome) : Prop where
  matchedRule : o.matchedRule = (winner? scope order).map (·.name)
  matchedPriority : o.matchedPriority = (winner? scope order).map (·.priority)
  actions : o.actions = ((winner? scope order).map (·.actions)).getD []
  traces : o.traces = order.map fun rule => (rule.run .exhaustive scope).trace rule
  errors : o.errors = order.filterMap fun rule => (rule.run .exhaustive scope).diagnostic

/-- **The exhaustive walk goes through all rules.** A rule that holds takes the place of a match
behind it, so the induction finds the first. -/
theorem walkRules_exhaustive (version : UInt64) (rules : List Rule) :
    AllRules scope rules (RuleSet.walkRules .exhaustive scope version rules) := by
  induction rules with
  | nil => exact ⟨rfl, rfl, rfl, rfl, rfl⟩
  | cons rule rules ih =>
    have matched : (rule.run .exhaustive scope).matched = rule.holds scope :=
      rule.run_matched .exhaustive
    have onward : decide (Thoroughness.exhaustive = .fast) = false := rfl
    have traces : (rule.run .exhaustive scope).trace rule ::
        (RuleSet.walkRules .exhaustive scope version rules).traces =
          (rule :: rules).map fun r => (r.run .exhaustive scope).trace r := by
      rw [List.map_cons, ← ih.traces]
    have errors : (rule.run .exhaustive scope).diagnostic.toList ++
        (RuleSet.walkRules .exhaustive scope version rules).errors =
          (rule :: rules).filterMap fun r => (r.run .exhaustive scope).diagnostic := by
      rw [filterMap_cons_toList, ← ih.errors]
    unfold RuleSet.walkRules
    simp only [matched, onward, Bool.and_false, Bool.false_eq_true, if_false]
    cases holds : rule.holds scope with
    | true =>
      have winner : winner? scope (rule :: rules) = some rule := List.find?_cons_of_pos holds
      rw [if_pos rfl]
      refine ⟨?_, ?_, ?_, traces, errors⟩
      all_goals
        rw [winner]
        rfl
    | false =>
      have winner : winner? scope (rule :: rules) = winner? scope rules :=
        List.find?_cons_of_neg (by simp [holds])
      rw [if_neg Bool.false_ne_true]
      refine ⟨?_, ?_, ?_, traces, errors⟩
      · rw [winner]
        exact ih.matchedRule
      · rw [winner]
        exact ih.matchedPriority
      · rw [winner]
        exact ih.actions

/-! ## The part that the fast walk meets -/

/-- The rules up to the first that holds, with it. -/
def upToWinner (scope : Scope) (order : List Rule) : List Rule :=
  passedOver scope order ++ (winner? scope order).toList

theorem upToWinner_initial (order : List Rule) : upToWinner scope order <+: order := by
  induction order with
  | nil => exact List.nil_prefix
  | cons rule rules ih =>
    unfold upToWinner passedOver winner? at *
    cases holds : rule.holds scope with
    | true =>
      simp only [List.takeWhile_cons, List.find?_cons, holds, Bool.not_true, Bool.false_eq_true,
        if_false, List.nil_append, Option.toList_some]
      exact List.prefix_append [rule] rules
    | false =>
      simp only [List.takeWhile_cons, List.find?_cons, holds, Bool.not_false, if_true,
        List.cons_append]
      exact (List.prefix_cons_inj rule).mpr ih

/-- Of the rules up to the first that holds, it alone does. -/
theorem map_upToWinner {α : Type} (f : Rule → Bool → α) (order : List Rule) :
    (passedOver scope order).map (f · false) ++ (winner? scope order).toList.map (f · true) =
      (upToWinner scope order).map fun rule => f rule (rule.holds scope) := by
  rw [upToWinner, List.map_append]
  congr 1
  · refine List.map_congr_left fun rule mem => ?_
    have passed := List.mem_takeWhile_imp (p := fun r : Rule => !r.holds scope) mem
    rw [Bool.not_eq_true'] at passed
    rw [passed]
  · refine List.map_congr_left fun rule mem => ?_
    have holds := List.find?_some (Option.mem_toList.mp mem)
    rw [holds]

/-- Where one reading finds something, and another finds the same there, the first finds a part of
what the second does. -/
theorem filterMap_sublist {α β : Type} {f g : α → Option β}
    (h : ∀ a b, f a = some b → g a = some b) (as : List α) :
    (as.filterMap f).Sublist (as.filterMap g) := by
  induction as with
  | nil => exact List.Sublist.refl _
  | cons a as ih =>
    rw [filterMap_cons_toList, filterMap_cons_toList]
    refine List.Sublist.append ?_ ih
    cases found : f a with
    | none => exact List.nil_sublist _
    | some b => exact (h a b found) ▸ List.Sublist.refl _

end Escalation
