import Escalation.Proofs.Condition.Rejection

/-!
# Subjects

A subject is what conditions are about: a field, with or without regard to case. Conditions on one
subject differ in operator and operand only, so what they have in common is said of the subject.

Every verdict on a subject comes from one reading of the value (`Subject.verdict_eq`). Off the clock
it is the same reading for every operator on values (`Subject.reading_of_field`). On the clock the
operators on the time of day read the time (`Subject.verdict_clock`), and what does not belong there
is refused in its own name (`Subject.verdict_of_pairing`).
-/

namespace Escalation

theorem Operator.mem_searches {operator : Operator} :
    operator ∈ [Operator.contains, .startsWith, .endsWith] ↔
      operator = .contains ∨ operator = .startsWith ∨ operator = .endsWith := by
  simp only [List.mem_cons, List.not_mem_nil, or_false]

/-- Off the clock an operator suits the kind if it does not read the time of day. -/
theorem Condition.checkPairing_of_field {c : Condition} (offClock : c.kind ≠ .timeBased)
    (time : c.operator.isTime = false) : c.checkPairing = .ok () := by
  rw [checkPairing, if_neg offClock, if_neg (by simp [time])]

theorem Condition.checkPairing_of_clock {c : Condition} (onClock : c.kind = .timeBased)
    (time : c.operator.isTime = true) : c.checkPairing = .ok () := by
  rw [checkPairing, if_pos onClock, if_pos (by simp [time])]

/-- What conditions compare: a field, with or without regard to case. -/
structure Subject where
  kind : ConditionKind
  field : String
  caseSensitive : Bool

namespace Subject

open Condition

variable {s : Subject} {scope : Scope} {operator : Operator} {operand : Value} {field : Field}

/-- The condition on a subject with that operator and operand. -/
def compare (s : Subject) (operator : Operator) (operand : Value) : Condition where
  kind := s.kind
  field := s.field
  operator := operator
  operand := operand
  negate := false
  caseSensitive := s.caseSensitive

@[simp] theorem compare_operator : (s.compare operator operand).operator = operator := rfl
@[simp] theorem compare_resolve :
    (s.compare operator operand).resolve = Field.resolve s.kind s.field := rfl

/-- What comes of the condition. -/
def verdict (s : Subject) (scope : Scope) (operator : Operator) (operand : Value) :
    Except ConditionFault Bool :=
  ((s.compare operator operand).evaluate scope).verdict

theorem verdict_unresolved {cause : FieldFault}
    (unknown : Field.resolve s.kind s.field = .error cause) :
    s.verdict scope operator operand = .error (.field cause) := by
  unfold verdict evaluate evaluateWith
  rw [compare_resolve, unknown]

theorem verdict_resolved (resolved : Field.resolve s.kind s.field = .ok field) :
    s.verdict scope operator operand =
      (s.compare operator operand).test PatternKey.compile? field (field.lookup scope) scope.now := by
  have plain : ∀ x : Except ConditionFault Bool, x.map (· != false) = x := by
    intro x
    cases x <;> simp [Except.map]
  unfold verdict evaluate evaluateWith
  rw [compare_resolve, resolved]
  exact plain _

/-- The value that an operator compares. -/
def reading (s : Subject) (scope : Scope) (operator : Operator) : Except ConditionFault Value :=
  match Field.resolve s.kind s.field with
  | .error cause => .error (.field cause)
  | .ok field =>
    match (s.compare operator .null).checkPairing, field.lookup scope with
    | .error fault, _ => .error fault
    | .ok _, none => .error (.missing field)
    | .ok _, some value => .ok value

theorem of_reading {value : Value} (read : s.reading scope operator = .ok value) :
    ∃ field, Field.resolve s.kind s.field = .ok field ∧ field.lookup scope = some value := by
  unfold reading at read
  split at read
  · cases read
  · next field resolved =>
    split at read
    · cases read
    · cases read
    · next found =>
      cases read
      exact ⟨field, resolved, found⟩

/-- **A verdict comes from the reading of the value**, if the operand has the shape that the operator
needs. -/
theorem verdict_eq (shape : (s.compare operator operand).checkShape = .ok ())
    (existence : operator.isExistence = false) (time : operator.isTime = false) :
    s.verdict scope operator operand = (s.reading scope operator).bind
      ((s.compare operator operand).testValue PatternKey.compile?) := by
  have paired : (s.compare operator operand).checkPairing =
      (s.compare operator .null).checkPairing := rfl
  unfold reading
  -- The reading fails in the order of the evaluation: field, pairing, value.
  cases resolved : Field.resolve s.kind s.field with
  | error cause => exact verdict_unresolved resolved
  | ok field =>
    rw [verdict_resolved resolved]
    cases pairing : (s.compare operator .null).checkPairing with
    | error fault => exact test_of_pairing _ (paired.trans pairing)
    | ok u =>
      rw [test_of_valid (paired.trans pairing) shape existence, compare_operator, time]
      simp only [Bool.false_eq_true, if_false]
      cases field.lookup scope <;> rfl

/-- Off the clock every operator on values reads the same value. -/
theorem reading_of_field (offClock : s.kind ≠ .timeBased) (time : operator.isTime = false)
    (scope : Scope) : s.reading scope operator =
      match Field.resolve s.kind s.field with
      | .error cause => .error (.field cause)
      | .ok field =>
        match field.lookup scope with
        | none => .error (.missing field)
        | some value => .ok value := by
  unfold reading
  rw [checkPairing_of_field (c := s.compare operator .null) offClock time]
  split
  · rfl
  · cases Field.lookup scope _ <;> rfl

section Resolved

variable {value : Value} (resolved : Field.resolve s.kind s.field = .ok field)
  (found : field.lookup scope = some value) (offClock : s.kind ≠ .timeBased)

include resolved found offClock

theorem reading_of_found (time : operator.isTime = false) : s.reading scope operator = .ok value := by
  simp only [reading_of_field offClock time, resolved, found]

theorem verdict_found (shape : (s.compare operator operand).checkShape = .ok ())
    (existence : operator.isExistence = false) (time : operator.isTime = false) :
    s.verdict scope operator operand =
      (s.compare operator operand).testValue PatternKey.compile? value := by
  rw [verdict_eq shape existence time, reading_of_found resolved found offClock time]
  rfl

end Resolved

/-- On the clock an operator on the time of day compares the time that it is. -/
theorem verdict_clock (onClock : s.kind = .timeBased) (time : operator.isTime = true)
    (shape : (s.compare operator operand).checkShape = .ok ()) :
    s.verdict scope operator operand = (s.compare operator operand).testTime scope.now := by
  have resolved : Field.resolve s.kind s.field = .ok .clock := by
    simp only [Field.resolve, onClock, if_true]
  have existence : operator.isExistence = false := by
    cases operator <;> first | rfl | cases time
  rw [verdict_resolved resolved,
    test_of_valid (checkPairing_of_clock onClock time) shape existence, compare_operator, time]
  rfl

/-- What the pairing refuses is refused in the name of its own operator. -/
theorem verdict_of_pairing {fault : ConditionFault}
    (resolved : Field.resolve s.kind s.field = .ok field)
    (pairing : (s.compare operator operand).checkPairing = .error fault) :
    s.verdict scope operator operand = .error fault := by
  rw [verdict_resolved resolved]
  exact test_of_pairing _ pairing

/-! ## Operands -/

theorem checkShape_of_comparable (compares : operator ∈ [Operator.equals, .notEquals])
    (comparable : operand.kind ≠ .object) : (s.compare operator operand).checkShape = .ok () := by
  simp only [List.mem_cons, List.not_mem_nil, or_false] at compares
  cases operand with
  | object members => exact absurd rfl comparable
  | _ => rcases compares with rfl | rfl <;> rfl

theorem checkShape_of_needles {texts : List String}
    (searches : operator ∈ [Operator.contains, .startsWith, .endsWith] ∨ operator = .notContains)
    (needles : needles? operand = some texts) : (s.compare operator operand).checkShape = .ok () := by
  rw [Operator.mem_searches, or_assoc, or_assoc] at searches
  rcases searches with rfl | rfl | rfl | rfl <;> simp only [checkShape, compare, needles]

/-- What an operator that searches makes of a value and the texts that it looks for. -/
def searchFor (operator : Operator) (caseSensitive : Bool) (value : Value) (texts : List String) :
    Except ConditionFault Bool :=
  match operator with
  | .startsWith => compareStart caseSensitive value texts
  | .endsWith => compareEnd caseSensitive value texts
  | _ => compareContains caseSensitive value texts

theorem testValue_searchFor (searches : operator ∈ [Operator.contains, .startsWith, .endsWith]) :
    (s.compare operator operand).testValue PatternKey.compile? =
      fun value => searchFor operator s.caseSensitive value ((needles? operand).getD []) := by
  rcases Operator.mem_searches.mp searches with rfl | rfl | rfl <;> rfl

theorem reads_of_searches (searches : operator ∈ [Operator.contains, .startsWith, .endsWith]) :
    operator.isExistence = false ∧ operator.isTime = false := by
  rcases Operator.mem_searches.mp searches with rfl | rfl | rfl <;> exact ⟨rfl, rfl⟩

end Subject

end Escalation
