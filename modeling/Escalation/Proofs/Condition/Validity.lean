import Escalation.Proofs.Condition.PatternStore

/-!
# What a valid condition can fail for

A condition that `validate` accepts is sound in itself: its field exists, its operator suits its
kind, its operand has the shape that the operator needs, and its pattern compiles
(`validateWith_eq_ok`). What is left to fail is the value of the field, and `DataFault` says in which
ways it does: there is none, or it is not of a kind that the operator reads.

The law is that these are all the failures, and that they do fail (`evaluate_valid`). It is
assembled along the evaluation: a comparison with the time of day never fails (`testTime_ok`), a
comparison of a value fails as its reading of the value does (`testValue_eq_error`), and negation
turns no failure into an answer. Which texts compile is left open: all that counts is that validation
and evaluation ask the same.
-/

namespace Escalation

/-! ## Values and results -/

/-- The value of a field is not null: a null counts as no value. -/
theorem Field.lookup_ne_null (scope : Scope) (field : Field) : field.lookup scope ≠ some .null := by
  intro h
  obtain ⟨value, -, present⟩ := Option.bind_eq_some_iff.mp h
  cases value <;> cases present

theorem Value.kind_eq_null {value : Value} : value.kind = .null ↔ value = .null := by
  cases value <;> simp [Value.kind]

/-- What is made of a result fails as the result does. -/
theorem map_eq_error {ε α β : Type} {x : Except ε α} {f : α → β} {e : ε} :
    x.map f = .error e ↔ x = .error e := by
  cases x with
  | ok a => exact ⟨nofun, nofun⟩
  | error cause => simp only [Except.map, Except.error.injEq]

theorem bind_pure_eq_error {ε α β : Type} {x : Except ε α} {f : α → β} {e : ε} :
    (do return f (← x)) = Except.error e ↔ x = .error e := by
  have mapped : (do return f (← x)) = x.map f := by cases x <;> rfl
  rw [mapped]
  exact map_eq_error

namespace Condition

variable {c : Condition} {compile : PatternKey → Option Pattern} {field : Field} {value : Value}
  {fault : ConditionFault} {caseSensitive : Bool}

/-! ## How comparisons fail -/

/-- A value has no text if it is null, a list or an object. -/
theorem fieldText_eq_error {operator : Operator} : fieldText operator value = .error fault ↔
    (value.kind = .null ∨ value.kind = .list ∨ value.kind = .object) ∧
      fault = .notText operator value.kind := by
  cases value <;> simp [fieldText, Value.kind, eq_comm]

/-- A value has a number if it is one or a text that denotes one. -/
theorem fieldNumber_eq_error : fieldNumber value = .error fault ↔
    value.number? = none ∧ fault = .notNumber value.kind value.display := by
  unfold fieldNumber
  cases value.number? <;> simp [eq_comm]

/-- A list can be searched though it has no text. -/
theorem compareContains_eq_error {needles : List String} :
    compareContains caseSensitive value needles = .error fault ↔
      (value.kind = .null ∨ value.kind = .object) ∧ fault = .notText .contains value.kind := by
  cases value <;> simp [compareContains, fieldText, Value.kind, eq_comm, bind, Except.bind, pure,
    Except.pure]

theorem compareStart_eq_error {needles : List String} :
    compareStart caseSensitive value needles = .error fault ↔
      fieldText .startsWith value = .error fault :=
  bind_pure_eq_error

theorem compareEnd_eq_error {needles : List String} :
    compareEnd caseSensitive value needles = .error fault ↔
      fieldText .endsWith value = .error fault :=
  bind_pure_eq_error

theorem comparePattern_eq_error {pattern : Pattern} :
    comparePattern pattern value = .error fault ↔ fieldText .regexMatches value = .error fault :=
  bind_pure_eq_error

theorem compareNumber_eq_error {compare : Float → Float → Bool} {y : Float} :
    compareNumber compare value y = .error fault ↔ fieldNumber value = .error fault :=
  bind_pure_eq_error

/-! ## What validation accepts -/

/-- **A condition is valid** if its field exists, its operator suits its kind and its operand the
operator, and its pattern compiles. -/
theorem validateWith_eq_ok : c.validateWith compile = .ok () ↔
    (∃ field, c.resolve = .ok field) ∧ c.checkPairing = .ok () ∧ c.checkShape = .ok () ∧
      ∀ key ∈ c.patternKey?, (compile key).isSome = true := by
  unfold validateWith checkOperand checkPattern
  cases c.resolve with
  | error cause => simp [bind, Except.bind]
  | ok field =>
    cases c.checkPairing with
    | error cause => simp [bind, Except.bind]
    | ok u =>
      cases c.checkShape with
      | error cause => simp [bind, Except.bind]
      | ok u =>
        cases c.patternKey? with
        | none => simp [bind, Except.bind]
        | some key => simp [bind, Except.bind, Option.isSome_iff_ne_none]

section Shape

variable (shape : c.checkShape = .ok ())

include shape

theorem operand_of_pattern (operator : c.operator = .regexMatches) : ∃ s, c.operand = .text s := by
  cases operand : c.operand with
  | text s => exact ⟨s, rfl⟩
  | _ => simp [checkShape, operator, operand, wrongShape] at shape

theorem operand_of_order (operator : c.operator = .greaterThan ∨ c.operator = .lessThan ∨
    c.operator = .greaterEqual ∨ c.operator = .lessEqual) : ∃ y, c.operand = .number y := by
  cases operand : c.operand with
  | number y => exact ⟨y, rfl⟩
  | _ =>
    rcases operator with operator | operator | operator | operator <;>
      simp [checkShape, operator, operand, wrongShape] at shape

theorem operand_of_range (operator : c.operator = .inRange) :
    ∃ low high, c.operand = .list [.number low, .number high] := by
  simp only [checkShape, operator] at shape
  split at shape
  · next low high operand => exact ⟨low, high, operand⟩
  · cases shape

theorem operand_of_list (operator : c.operator = .inList ∨ c.operator = .notInList) :
    ∃ items, c.operand = .list items := by
  cases operand : c.operand with
  | list items => exact ⟨items, rfl⟩
  | _ =>
    rcases operator with operator | operator <;>
      simp [checkShape, operator, operand, wrongShape] at shape

/-- **A comparison with the time of day does not fail**: the operand has been read as a time
before. -/
theorem testTime_ok (operator : c.operator.isTime = true) (now : TimeOfDay) :
    ∃ holds, c.testTime now = .ok holds := by
  cases name : c.operator with
  | before | after =>
    simp only [checkShape, name] at shape
    split at shape
    · next time read =>
      simp only [testTime, name, read]
      exact ⟨_, rfl⟩
    · cases shape
  | between =>
    simp only [checkShape, name] at shape
    split at shape
    · next window read =>
      simp only [testTime, name, read]
      exact ⟨_, rfl⟩
    · cases shape
  | _ => simp [name, Operator.isTime] at operator

end Shape

/-! ## The failures that are left -/

/-- **A valid condition cannot be decided on the value of its field.** -/
inductive DataFault (c : Condition) (field : Field) : Option Value → ConditionFault → Prop
  /-- Only an operator on existence or on the time of day does without a value. -/
  | missing (existence : c.operator.isExistence = false) (time : c.operator.isTime = false) :
    DataFault c field none (.missing field)
  /-- No text is searched in an object. -/
  | notSearched {value : Value}
    (operator : c.operator = .contains ∨ c.operator = .notContains)
    (kind : value.kind = .object) : DataFault c field (some value) (.notText .contains value.kind)
  /-- A list or an object has no beginning and no end, and matches no pattern. -/
  | notText {value : Value}
    (operator : c.operator = .startsWith ∨ c.operator = .endsWith ∨ c.operator = .regexMatches)
    (kind : value.kind = .list ∨ value.kind = .object) :
    DataFault c field (some value) (.notText c.operator value.kind)
  /-- What is no number and denotes none is not compared with a number. -/
  | notNumber {value : Value} (operator : c.operator.isNumeric = true)
    (view : value.number? = none) :
    DataFault c field (some value) (.notNumber value.kind value.display)

theorem dataFault_some : c.DataFault field (some value) fault ↔
    ((c.operator = .contains ∨ c.operator = .notContains) ∧ value.kind = .object ∧
        fault = .notText .contains value.kind) ∨
      ((c.operator = .startsWith ∨ c.operator = .endsWith ∨ c.operator = .regexMatches) ∧
        (value.kind = .list ∨ value.kind = .object) ∧ fault = .notText c.operator value.kind) ∨
      (c.operator.isNumeric = true ∧ value.number? = none ∧
        fault = .notNumber value.kind value.display) := by
  constructor
  · rintro (_ | ⟨operator, kind⟩ | ⟨operator, kind⟩ | ⟨operator, view⟩)
    · exact .inl ⟨operator, kind, rfl⟩
    · exact .inr (.inl ⟨operator, kind, rfl⟩)
    · exact .inr (.inr ⟨operator, view, rfl⟩)
  · rintro (⟨operator, kind, rfl⟩ | ⟨operator, kind, rfl⟩ | ⟨operator, view, rfl⟩)
    · exact .notSearched operator kind
    · exact .notText operator kind
    · exact .notNumber operator view

/-- Operators on existence and on the time of day have no such failure. -/
theorem DataFault.reads {actual : Option Value} (h : c.DataFault field actual fault) :
    c.operator.isExistence = false ∧ c.operator.isTime = false := by
  cases h with
  | missing existence time => exact ⟨existence, time⟩
  | notSearched operator => rcases operator with name | name <;> exact name ▸ ⟨rfl, rfl⟩
  | notText operator => rcases operator with name | name | name <;> exact name ▸ ⟨rfl, rfl⟩
  | notNumber operator =>
    cases name : c.operator <;> simp_all [Operator.isNumeric, Operator.isExistence, Operator.isTime]

/-- A field without a value is named; what a value is not good for is a fault of types. -/
theorem DataFault.kind_message {actual : Option Value} (h : c.DataFault field actual fault) :
    actual = none ∧ fault.kind = .fieldNotFound ∧
        fault.message = FaultKind.fieldNotFound.message field.display ∨
      actual.isSome ∧ fault.kind = .conditionType := by
  cases h with
  | missing => exact .inl ⟨rfl, rfl, rfl⟩
  | notSearched | notText | notNumber => exact .inr ⟨rfl, rfl⟩

/-- **A comparison fails as its reading of the value does.** The operand has the shape that the
operator needs, so it adds no failure, and the pattern compiles. -/
theorem testValue_eq_error (shape : c.checkShape = .ok ())
    (pattern : ∀ key ∈ c.patternKey?, (compile key).isSome = true)
    (existence : c.operator.isExistence = false) (time : c.operator.isTime = false)
    (present : value ≠ .null) :
    c.testValue compile value = .error fault ↔ c.DataFault field (some value) fault := by
  rw [dataFault_some]
  have notNull : value.kind ≠ .null := mt Value.kind_eq_null.mp present
  cases name : c.operator with
  | equals | notEquals | isTrue | isFalse => simp [testValue, name, Operator.isNumeric]
  | contains => simp [testValue, name, compareContains_eq_error, notNull, Operator.isNumeric]
  | notContains =>
    simp [testValue, name, map_eq_error, compareContains_eq_error, notNull, Operator.isNumeric]
  | startsWith =>
    simp [testValue, name, compareStart_eq_error, fieldText_eq_error, notNull, Operator.isNumeric]
  | endsWith =>
    simp [testValue, name, compareEnd_eq_error, fieldText_eq_error, notNull, Operator.isNumeric]
  | regexMatches =>
    obtain ⟨s, operand⟩ := operand_of_pattern shape name
    obtain ⟨compiled, found⟩ := Option.isSome_iff_exists.mp
      (pattern ⟨c.caseSensitive, s⟩ (by simp [patternKey?, name, operand]))
    simp [testValue, name, operand, found, comparePattern_eq_error, fieldText_eq_error, notNull,
      Operator.isNumeric]
  | greaterThan | lessThan | greaterEqual | lessEqual =>
    obtain ⟨y, operand⟩ := operand_of_order shape (by simp [name])
    simp [testValue, name, operand, compareNumber_eq_error, fieldNumber_eq_error,
      Operator.isNumeric]
  | inRange =>
    obtain ⟨low, high, operand⟩ := operand_of_range shape name
    simp only [testValue, name, operand, bind_pure_eq_error, fieldNumber_eq_error]
    simp [Operator.isNumeric]
  | inList | notInList =>
    obtain ⟨items, operand⟩ := operand_of_list shape (by simp [name])
    simp [testValue, name, operand, Operator.isNumeric]
  | «exists» | notExists => simp [name, Operator.isExistence] at existence
  | before | after | between => simp [name, Operator.isTime] at time

section Valid

variable {actual : Option Value} {now : TimeOfDay}

theorem test_exists (pairing : c.checkPairing = .ok ()) (name : c.operator = .exists) :
    c.test compile field actual now = .ok actual.isSome := by
  unfold test
  rw [pairing, name]
  rfl

theorem test_notExists (pairing : c.checkPairing = .ok ()) (name : c.operator = .notExists) :
    c.test compile field actual now = .ok actual.isNone := by
  unfold test
  rw [pairing, name]
  rfl

/-- Existence is decided whatever the value. -/
theorem test_of_existence (pairing : c.checkPairing = .ok ())
    (existence : c.operator.isExistence = true) :
    ∃ holds, c.test compile field actual now = .ok holds := by
  cases name : c.operator with
  | «exists» => exact ⟨_, test_exists pairing name⟩
  | notExists => exact ⟨_, test_notExists pairing name⟩
  | _ => simp [name, Operator.isExistence] at existence

/-- Any other operator reads the clock or the value. -/
theorem test_of_valid (pairing : c.checkPairing = .ok ()) (shape : c.checkShape = .ok ())
    (existence : c.operator.isExistence = false) :
    c.test compile field actual now =
      if c.operator.isTime then c.testTime now
      else
        match actual with
        | none => .error (.missing field)
        | some value => c.testValue compile value := by
  unfold test checkOperand
  rw [pairing, shape]
  cases name : c.operator with
  | «exists» | notExists => simp [name, Operator.isExistence] at existence
  | _ => rfl

/-- **A valid condition fails as the value of its field does**, before it is negated. -/
theorem test_eq_error (pairing : c.checkPairing = .ok ()) (shape : c.checkShape = .ok ())
    (pattern : ∀ key ∈ c.patternKey?, (compile key).isSome = true)
    (present : actual ≠ some .null) :
    c.test compile field actual now = .error fault ↔ c.DataFault field actual fault := by
  by_cases existence : c.operator.isExistence = true
  · obtain ⟨holds, answer⟩ := test_of_existence pairing existence
    rw [answer]
    exact ⟨nofun, fun h => absurd existence (by simp [h.reads.1])⟩
  rw [Bool.not_eq_true] at existence
  rw [test_of_valid pairing shape existence]
  by_cases time : c.operator.isTime = true
  · obtain ⟨holds, answer⟩ := testTime_ok shape time now
    rw [if_pos time, answer]
    exact ⟨nofun, fun h => absurd time (by simp [h.reads.2])⟩
  rw [if_neg time]
  rw [Bool.not_eq_true] at time
  cases actual with
  | none =>
    constructor
    · rintro ⟨⟩
      exact .missing existence time
    · rintro ⟨⟩
      rfl
  | some value =>
    exact testValue_eq_error shape pattern existence time fun null => present (congrArg some null)

end Valid

section Witness

/-- A condition with a pattern. -/
def tierPattern : Condition :=
  on .userAttribute "tier" .regexMatches (.text "^v")

/-- A user with that attribute. -/
def attributeScope (tier : Value) : Scope where
  context := { conversationId := "a", userAttributes := .ofList [("tier", tier)] }
  decision := {}
  metadata := .empty
  now := ⟨540, by decide⟩

end Witness

end Condition

end Escalation
