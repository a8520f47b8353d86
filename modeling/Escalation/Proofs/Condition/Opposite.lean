import Escalation.Proofs.Condition.Composite

/-!
# Opposite conditions

A condition is turned round by its negation, and six pairs of operators are opposites of each other.
Either way of turning it round gives the other answer and no answer where there was a failure; so
doing both changes nothing, and of two opposite conditions exactly one holds wherever one of them can
be decided.

Negation comes after the comparison, so a failure never meets it (`evaluate_negated`). The opposite
operators have code of their own for every step: the pairing, existence, the operand, the time and
the value. Each step of the one fails where that of the other does, but for the operator that the
fault names (`ConditionFault.named`), and `test_opposite` puts them together. Reading a value as a
text is told of in the name of `CONTAINS` by both operators that do so.
-/

namespace Escalation

/-- The operator that asks whether another does not hold. -/
def Operator.opposite? : Operator → Option Operator
  | .equals => some .notEquals
  | .notEquals => some .equals
  | .contains => some .notContains
  | .notContains => some .contains
  | .inList => some .notInList
  | .notInList => some .inList
  | .isTrue => some .isFalse
  | .isFalse => some .isTrue
  | .exists => some .notExists
  | .notExists => some .exists
  | .before => some .after
  | .after => some .before
  | _ => none

/-- Opposite operators read the same: the clock, whether there is a value, or the value. -/
theorem Operator.reads_of_opposite {operator opposite : Operator}
    (h : operator.opposite? = some opposite) :
    opposite.isTime = operator.isTime ∧ opposite.isExistence = operator.isExistence := by
  cases operator <;> cases h <;> exact ⟨rfl, rfl⟩

namespace ConditionFault

/-- The fault in the name of an operator, if it is one that names the condition's. -/
def named (operator : Operator) : ConditionFault → ConditionFault
  | .fieldOperator _ => .fieldOperator operator
  | .timeOperator _ kind => .timeOperator operator kind
  | .operand _ needed found => .operand operator needed found
  | fault => fault

@[simp] theorem named_kind (operator : Operator) (fault : ConditionFault) :
    (fault.named operator).kind = fault.kind := by
  cases fault <;> rfl

end ConditionFault

/-- A verdict turned round, its fault in the name of an operator. -/
def turned (operator : Operator) (verdict : Except ConditionFault Bool) :
    Except ConditionFault Bool :=
  (verdict.map (!·)).mapError (·.named operator)

@[simp] theorem turned_ok (operator : Operator) (holds : Bool) :
    turned operator (.ok holds) = .ok (!holds) := rfl

@[simp] theorem turned_error (operator : Operator) (fault : ConditionFault) :
    turned operator (.error fault) = .error (fault.named operator) := rfl

namespace Condition

variable {c : Condition} {opposite : Operator} {compile : PatternKey → Option Pattern}

/-- The condition with another operator. -/
def asking (c : Condition) (operator : Operator) : Condition :=
  { c with operator }

/-! ## One step after the other -/

/-- A search fails in the name of `CONTAINS`, whichever operator asks. -/
theorem named_compareContains {caseSensitive : Bool} {value : Value} {needles : List String}
    {fault : ConditionFault} (failed : compareContains caseSensitive value needles = .error fault)
    (operator : Operator) : fault.named operator = fault := by
  obtain ⟨-, rfl⟩ := compareContains_eq_error.mp failed
  rfl

section Steps

variable (opposed : c.operator.opposite? = some opposite)

include opposed

theorem checkPairing_opposite :
    (c.asking opposite).checkPairing = c.checkPairing.mapError (·.named opposite) := by
  obtain ⟨kind, field, operator, operand, negate, caseSensitive⟩ := c
  cases operator <;> cases opposed <;> cases kind <;> rfl

theorem checkShape_opposite :
    (c.asking opposite).checkShape = c.checkShape.mapError (·.named opposite) := by
  obtain ⟨kind, field, operator, operand, negate, caseSensitive⟩ := c
  cases operator <;> cases opposed
  case equals | notEquals | inList | notInList => cases operand <;> rfl
  case contains | notContains =>
    simp only [checkShape, asking, wrongShape]
    cases needles? operand <;> rfl
  case isTrue | isFalse | «exists» | notExists => rfl
  case before | after =>
    simp only [checkShape, asking]
    cases TimeOfDay.ofValue operand <;> rfl

theorem testTime_opposite (time : c.operator.isTime = true) (now : TimeOfDay) :
    (c.asking opposite).testTime now = turned opposite (c.testTime now) := by
  obtain ⟨kind, field, operator, operand, negate, caseSensitive⟩ := c
  cases operator <;> cases time <;> cases opposed
  all_goals
    simp only [testTime, asking]
    cases TimeOfDay.ofValue operand with
    | error cause => rfl
    | ok time => simp [← decide_not]

theorem testValue_opposite (value : Value) :
    (c.asking opposite).testValue compile value = turned opposite (c.testValue compile value) := by
  obtain ⟨kind, field, operator, operand, negate, caseSensitive⟩ := c
  cases operator <;> cases opposed
  case contains | notContains =>
    simp only [testValue, asking]
    cases searched : compareContains caseSensitive value ((needles? operand).getD []) with
    | error fault =>
      simp only [Except.map, turned_error, named_compareContains searched]
    | ok holds => simp only [Except.map, turned_ok, Bool.not_not]
  case notInList | notEquals | isFalse =>
    -- The answer comes turned round twice.
    cases operand <;> simp [testValue, asking, ConditionFault.named]
  case inList => cases operand <;> rfl
  all_goals rfl

theorem test_opposite_of_existence (pairing : c.checkPairing = .ok ())
    (paired : (c.asking opposite).checkPairing = .ok ())
    (existence : c.operator.isExistence = true) {field : Field} {actual : Option Value}
    {now : TimeOfDay} : (c.asking opposite).test compile field actual now =
      turned opposite (c.test compile field actual now) := by
  unfold test
  rw [pairing, paired]
  obtain ⟨kind, name, operator, operand, negate, caseSensitive⟩ := c
  cases operator <;> cases existence <;> cases opposed <;> cases actual <;> rfl

/-- **The comparison with the opposite operator** gives the opposite answer, and fails where it
does. -/
theorem test_opposite (field : Field) (actual : Option Value) (now : TimeOfDay) :
    (c.asking opposite).test compile field actual now =
      turned opposite (c.test compile field actual now) := by
  cases pairing : c.checkPairing with
  | error fault =>
    have refused := checkPairing_opposite opposed
    rw [pairing] at refused
    rw [test_of_pairing _ pairing, test_of_pairing _ refused]
    rfl
  | ok u =>
    have paired := checkPairing_opposite opposed
    rw [pairing] at paired
    obtain ⟨time, existence⟩ := Operator.reads_of_opposite opposed
    by_cases exist : c.operator.isExistence = true
    · exact test_opposite_of_existence opposed pairing paired exist
    rw [Bool.not_eq_true] at exist
    cases shape : c.checkShape with
    | error fault =>
      have refused := checkShape_opposite opposed
      rw [shape] at refused
      rw [test_of_shape _ pairing shape, test_of_shape _ paired refused]
      rfl
    | ok u =>
      have shaped := checkShape_opposite opposed
      rw [shape] at shaped
      rw [test_of_valid pairing shape exist, test_of_valid paired shaped (existence.trans exist)]
      change (if opposite.isTime then _ else _) = _
      rw [time]
      by_cases time : c.operator.isTime = true
      · rw [if_pos time, if_pos time]
        exact testTime_opposite opposed time now
      · rw [if_neg time, if_neg time]
        cases actual with
        | none => rfl
        | some value => exact testValue_opposite opposed value

end Steps

/-! ## Readings -/

/-- **Negation turns the answer round** and is no matter to a failure. -/
theorem evaluate_negated (c : Condition) (scope : Scope) :
    c.negated.evaluate scope =
      ⟨(c.evaluate scope).actual, (c.evaluate scope).verdict.map (!·)⟩ := by
  have resolved : c.negated.resolve = c.resolve := rfl
  unfold evaluate evaluateWith
  rw [resolved]
  cases c.resolve with
  | error cause => rfl
  | ok field =>
    have same : c.negated.test PatternKey.compile? field (field.lookup scope) scope.now =
        c.test PatternKey.compile? field (field.lookup scope) scope.now := rfl
    simp only [same]
    cases c.test PatternKey.compile? field (field.lookup scope) scope.now with
    | error fault => rfl
    | ok holds => cases holds <;> cases negate : c.negate <;> simp [Except.map, negated, negate]

/-- **So does the opposite operator**, and a failure is told of in its name. -/
theorem evaluate_opposite (opposed : c.operator.opposite? = some opposite) (scope : Scope) :
    (c.asking opposite).evaluate scope =
      ⟨(c.evaluate scope).actual, turned opposite (c.evaluate scope).verdict⟩ := by
  have resolved : (c.asking opposite).resolve = c.resolve := rfl
  unfold evaluate evaluateWith
  rw [resolved]
  cases c.resolve with
  | error cause => rfl
  | ok field =>
    simp only [test_opposite opposed]
    cases c.test PatternKey.compile? field (field.lookup scope) scope.now with
    | error fault => rfl
    | ok holds => cases holds <;> cases negate : c.negate <;> simp [Except.map, asking, negate]

/-- **A condition can be turned round in either way.** Negation gives the other answer and the same
failure. With the opposite operator and negation flipped the answer is the same, and a failure is one
of the same kind. So two conditions with opposite operators have different answers wherever they
have any. -/
theorem opposites_interchange (c : Condition) (scope : Scope) (store other : PatternStore) :
    (∀ holds, (store.evaluate scope c).1.verdict = .ok holds ↔
      (other.evaluate scope c.negated).1.verdict = .ok (!holds)) ∧
    (∀ fault, (store.evaluate scope c).1.verdict = .error fault ↔
      (other.evaluate scope c.negated).1.verdict = .error fault) ∧
    ∀ opposite, c.operator.opposite? = some opposite →
      (∀ holds, (store.evaluate scope c).1.verdict = .ok holds ↔
        (other.evaluate scope (c.asking opposite).negated).1.verdict = .ok holds) ∧
      (∀ fault, (store.evaluate scope c).1.verdict = .error fault →
        ∃ cause, (other.evaluate scope (c.asking opposite).negated).1.verdict = .error cause ∧
          cause.kind = fault.kind) ∧
      ∀ holds, ¬ ((store.evaluate scope c).1.verdict = .ok holds ∧
        (other.evaluate scope (c.asking opposite)).1.verdict = .ok holds) := by
  have read (store : PatternStore) (c : Condition) :
      (store.evaluate scope c).1 = c.evaluate scope := store.evaluate_eq scope c
  simp only [read, evaluate_negated]
  refine ⟨?_, ?_, fun opposite opposed => ?_⟩
  · simp [map_not_eq_ok]
  · simp [map_eq_error]
  · simp only [evaluate_opposite opposed]
    cases (c.evaluate scope).verdict with
    | error fault => simp [map_eq_error, map_not_eq_ok]
    | ok holds => simp [map_not_eq_ok]

section Witness

/-- A condition on a text, or on what has none. -/
def tierContains : Condition :=
  on .userAttribute "tier" .contains (.text "vip")

theorem tierContains_opposite :
    Operator.contains.opposite? = some .notContains ∧
      ((tierContains.asking .notContains).negated.evaluate
        (attributeScope (.text "a vip"))).verdict = .ok true ∧
      (∃ cause, ((tierContains.asking .notContains).negated.evaluate
        (attributeScope (.object []))).verdict = .error cause ∧ cause.kind = .conditionType) := by
  have read : ∀ scope c, (PatternStore.empty.evaluate scope c).1 = c.evaluate scope :=
    PatternStore.empty.evaluate_eq
  obtain ⟨-, -, texts⟩ := opposites_interchange tierContains (attributeScope (.text "a vip")) .empty
    .empty
  obtain ⟨-, -, objects⟩ := opposites_interchange tierContains (attributeScope (.object [])) .empty
    .empty
  simp only [read] at texts objects
  exact ⟨rfl, ((texts .notContains rfl).1 true).mp rfl, (objects .notContains rfl).2.1 _ rfl⟩

end Witness

end Condition

end Escalation
