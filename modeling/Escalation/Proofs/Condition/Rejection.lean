import Escalation.Engine.Profile
import Escalation.Proofs.Condition.Validity
import Escalation.Proofs.Rule.FirstMatch

/-!
# What an invalid condition does

A condition that `validate` refuses may still be evaluated: a rule can be tested that no registry
would take. Evaluation checks the same things in an order of its own, and has ways out between the
checks. It answers on existence before it looks at the operand, on the time of day before it looks
up a value, and without a value it compiles no pattern.

None of these ways out gives an answer. An operator on existence asks nothing of its operand
(`checkShape_of_existence`), an operator on the time of day reads its operand, and without a value
there is a fault of its own. So the evaluation fails, with the fault that validation tells of, or
with that of the missing value in place of an invalid pattern (`evaluate_of_rejected`).

A failure is never negated into an answer, so a rule with such a condition does not match, and an
evaluation of all its conditions meets the failure (`Rule.runWith_exhaustive_failed`). None of this
depends on which texts compile, as long as validation and evaluation ask the same.
-/

namespace Escalation

namespace Condition

variable {c : Condition} {compile : PatternKey → Option Pattern} {field : Field}
  {actual : Option Value} {now : TimeOfDay} {fault : ConditionFault}

/-! ## One check after the other -/

/-- **A condition is refused** for its field, for its pairing, for its operand or for its pattern,
and then the checks before have passed. -/
theorem validateWith_eq_error : c.validateWith compile = .error fault ↔
    (∃ cause, c.resolve = .error cause ∧ fault = .field cause) ∨
      ∃ field, c.resolve = .ok field ∧
        (c.checkPairing = .error fault ∨
          c.checkPairing = .ok () ∧
            (c.checkShape = .error fault ∨
              c.checkShape = .ok () ∧ c.checkPattern compile = .error fault)) := by
  unfold validateWith checkOperand
  cases c.resolve with
  | error cause => simp [bind, Except.bind, eq_comm]
  | ok field =>
    cases c.checkPairing with
    | error cause => simp [bind, Except.bind]
    | ok u => cases c.checkShape <;> simp [bind, Except.bind]

/-- An operator on existence takes every operand. -/
theorem checkShape_of_existence (existence : c.operator.isExistence = true) :
    c.checkShape = .ok () := by
  unfold checkShape
  cases name : c.operator with
  | «exists» | notExists => rfl
  | _ => simp [name, Operator.isExistence] at existence

theorem test_of_pairing (compile : PatternKey → Option Pattern)
    (pairing : c.checkPairing = .error fault) : c.test compile field actual now = .error fault := by
  unfold test
  rw [pairing]
  rfl

/-- The operand is looked at in time: what has been answered before asks nothing of it. -/
theorem test_of_shape (compile : PatternKey → Option Pattern) (pairing : c.checkPairing = .ok ())
    (shape : c.checkShape = .error fault) : c.test compile field actual now = .error fault := by
  have existence : c.operator.isExistence ≠ true := fun existence => by
    rw [checkShape_of_existence existence] at shape
    cases shape
  unfold test checkOperand
  rw [pairing, shape]
  cases name : c.operator with
  | «exists» | notExists => exact absurd (by rw [name]; rfl) existence
  | _ => rfl

/-- A pattern that does not compile is the operand of the operator on patterns. -/
theorem checkPattern_eq_error : c.checkPattern compile = .error fault ↔
    ∃ s, c.operator = .regexMatches ∧ c.operand = .text s ∧
      compile ⟨c.caseSensitive, s⟩ = none ∧ fault = .pattern s := by
  unfold checkPattern patternKey?
  split
  · next key own =>
    split at own
    · next s operator operand =>
      cases own
      cases compiled : compile ⟨c.caseSensitive, s⟩ <;>
        simp [operator, operand, compiled, eq_comm]
    · cases own
  · next own =>
    refine ⟨nofun, ?_⟩
    rintro ⟨s, operator, operand, -⟩
    simp only [operator, operand, reduceCtorEq] at own

/-- Where there is a value its pattern is compiled, and where there is none that is the fault. -/
theorem test_of_pattern (pairing : c.checkPairing = .ok ()) (shape : c.checkShape = .ok ())
    (pattern : c.checkPattern compile = .error fault) :
    c.test compile field actual now =
      .error (if actual.isSome then fault else .missing field) := by
  obtain ⟨s, operator, operand, compiled, rfl⟩ := checkPattern_eq_error.mp pattern
  rw [test_of_valid pairing shape (by rw [operator]; rfl), if_neg (by rw [operator]; decide)]
  cases actual with
  | none => rfl
  | some value => simp only [testValue, operator, operand, compiled, Option.isSome_some, if_true]

/-! ## The evaluation -/

/-- **A condition that is refused fails on every scope**, whatever patterns are stored: with the
fault that it is refused for, or because its field has no value. -/
theorem evaluate_of_rejected (rejected : c.validateWith compile = .error fault) (scope : Scope)
    (store : PatternStore compile) :
    (store.evaluate scope c).1.verdict = .error fault ∨
      ∃ field, c.resolve = .ok field ∧ field.lookup scope = none ∧
        (store.evaluate scope c).1.verdict = .error (.missing field) := by
  rw [store.evaluate_eq, evaluateWith]
  rcases validateWith_eq_error.mp rejected with ⟨cause, unknown, rfl⟩ | ⟨field, resolved, checks⟩
  · rw [unknown]
    exact .inl rfl
  · simp only [resolved, map_eq_error]
    rcases checks with pairing | ⟨pairing, shape | ⟨shape, pattern⟩⟩
    · exact .inl (test_of_pairing _ pairing)
    · exact .inl (test_of_shape _ pairing shape)
    · rw [test_of_pattern pairing shape pattern]
      cases found : field.lookup scope with
      | some value => exact .inl rfl
      | none => exact .inr ⟨field, rfl, found, rfl⟩

/-- So it fails, without a store too. -/
theorem evaluateWith_failed (rejected : c.validateWith compile = .error fault) (scope : Scope) :
    ∃ cause, (c.evaluateWith compile scope).verdict = .error cause := by
  have evaluated := evaluate_of_rejected rejected scope (.empty compile)
  rw [PatternStore.evaluate_eq] at evaluated
  rcases evaluated with failed | ⟨field, -, -, failed⟩
  · exact ⟨_, failed⟩
  · exact ⟨_, failed⟩

end Condition

/-! ## Rules with a condition that fails -/

namespace Rule

open Condition (PatternKey)

variable {scope : Scope} {rule : Rule} {c : Condition} {compile : PatternKey → Option Pattern}
  {fault : ConditionFault}

/-- On the exhaustive path every condition has its trace, at its own place. -/
theorem tracesWith_exhaustive (conditions : List Condition) : ∀ index,
    tracesWith compile .exhaustive scope index conditions =
      (conditions.zipIdx index).map fun (c, i) => c.trace i (c.evaluateWith compile scope) := by
  induction conditions with
  | nil => exact fun _ => rfl
  | cons c cs ih =>
    exact fun index => congrArg (c.trace index (c.evaluateWith compile scope) :: ·) (ih _)

/-- A rule does not match with a condition that fails, on the fast path or on the exhaustive
one. -/
theorem runWith_failed (mem : c ∈ rule.conditions)
    (failed : (c.evaluateWith compile scope).verdict = .error fault) (thoroughness : Thoroughness) :
    (rule.runWith compile thoroughness scope).matched = false := by
  rw [RuleMatch.matched, runWith, tracesWith_all, List.all_eq_false]
  refine ⟨c, mem, ?_⟩
  simp only [Condition.trace, failed, Bool.false_eq_true, not_false_eq_true]

/-- **The exhaustive path meets every condition that fails**, so the rule has an error. -/
theorem runWith_exhaustive_failed (mem : c ∈ rule.conditions)
    (failed : (c.evaluateWith compile scope).verdict = .error fault) :
    ∃ d, (rule.runWith compile .exhaustive scope).diagnostic = some d := by
  obtain ⟨place, bound, get⟩ := List.mem_iff_getElem.mp mem
  have traced : c.trace place (c.evaluateWith compile scope) ∈
      (rule.runWith compile .exhaustive scope).conditions := by
    rw [runWith, tracesWith_exhaustive]
    refine List.mem_map.mpr ⟨(c, place), List.mem_zipIdx_iff_getElem?.mpr ?_, rfl⟩
    rw [← get]
    exact List.getElem?_eq_getElem bound
  refine Option.isSome_iff_exists.mp (List.findSome?_isSome_iff.mpr ⟨_, traced, ?_⟩)
  simp only [ConditionTrace.diagnostic?, Condition.trace, failed]
  rfl

end Rule

namespace Condition

variable {c : Condition} {compile : PatternKey → Option Pattern} {fault : ConditionFault}

/-- **What validation refuses can never match**, however patterns are compiled. Such a condition
fails on every scope and with every store of patterns; it has no answer that negation could turn
round. A rule that has it among its conditions matches on no path, and the exhaustive path tells of an
error, and so does a test of the rule. -/
theorem rejected_never_matches (rejected : c.validateWith compile = .error fault) :
    (∀ (scope : Scope) (store : PatternStore compile),
      (store.evaluate scope c).1.verdict = .error fault ∨
        ∃ field, c.resolve = .ok field ∧ field.lookup scope = none ∧
          (store.evaluate scope c).1.verdict = .error (.missing field)) ∧
      ∀ rule : Rule, c ∈ rule.conditions → ∀ scope,
        (∀ thoroughness, (rule.runWith compile thoroughness scope).matched = false) ∧
          (∃ d, (rule.runWith compile .exhaustive scope).diagnostic = some d) ∧
          (rule.testWith compile scope).matched = false ∧
          ∃ message, (rule.testWith compile scope).error = some message := by
  refine ⟨evaluate_of_rejected rejected, fun rule mem scope => ?_⟩
  obtain ⟨cause, failed⟩ := evaluateWith_failed rejected scope
  obtain ⟨d, diagnostic⟩ := Rule.runWith_exhaustive_failed mem failed
  refine ⟨Rule.runWith_failed mem failed, ⟨d, diagnostic⟩,
    Rule.runWith_failed mem failed .exhaustive, d.message, ?_⟩
  simp only [Rule.testWith, diagnostic, Option.map_some]

section Witness

/-- A condition with a pattern that is never closed, negated. -/
def openPattern : Condition :=
  (on .userAttribute "tier" .regexMatches (.text "(")).negated

/-- Without a value the pattern is not compiled, and with one it does not compile; beside a
condition that holds, neither makes a rule match. -/
theorem openPattern_never_matches :
    openPattern.validate = .error (.pattern "(") ∧
      (∃ cause, (PatternStore.empty.evaluate (attributeScope .null) openPattern).1.verdict =
        .error cause) ∧
      (({ name := "a", conditions := [openPattern] } : Rule).run .fast
        (attributeScope (.text "vip"))).matched = false ∧
      ∃ message, (({ name := "a", conditions := [openPattern] } : Rule).test
        (attributeScope (.text "vip"))).error = some message := by
  have rejected : openPattern.validate = .error (.pattern "(") := rfl
  obtain ⟨fails, rules⟩ := rejected_never_matches rejected
  obtain ⟨matched, -, -, message⟩ :=
    rules { name := "a", conditions := [openPattern] } List.mem_cons_self
      (attributeScope (.text "vip"))
  refine ⟨rejected, ?_, matched .fast, message⟩
  rcases fails (attributeScope .null) .empty with failed | ⟨_, -, -, failed⟩
  · exact ⟨_, failed⟩
  · exact ⟨_, failed⟩

end Witness

end Condition

end Escalation
