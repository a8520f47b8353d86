import Escalation.Condition.Field
import Escalation.Fault.Kind
import Escalation.Pattern.Reader
import Escalation.Time.TimeOfDay

/-!
# Conditions

A condition compares one field of the scope with an operand. `Condition.checkPairing` and
`Condition.checkOperand` decide whether the operator suits the kind of condition and the operand
the operator; `Condition.validate` adds the name of the field and the text of a pattern, so that
what it accepts can fail only for what the scope holds. Whether a text is a pattern is for
`PatternKey.compile?` to say, and `Condition.validateWith` asks another in its place.
-/

namespace Escalation

/-- What operators need as an operand. -/
inductive OperandShape where
  | pattern | texts | number | range | list | comparable
deriving DecidableEq, Repr

def OperandShape.detail : OperandShape → String
  | .pattern => "a string pattern"
  | .texts => "a string or a non-empty array of strings"
  | .number => "a number"
  | .range => "a [low, high] pair of numbers"
  | .list => "an array"
  | .comparable => "a scalar or array"

/-- Why a condition is invalid or cannot be decided. The first kinds are found when a condition is
validated and when it is evaluated; the last three only tell of what a scope holds. -/
inductive ConditionFault where
  | field (cause : FieldFault)
  | time (cause : TimeFault)
  /-- A condition on the clock with an operator that is for fields. -/
  | fieldOperator (operator : Operator)
  /-- A condition on a field with an operator that is for the clock. -/
  | timeOperator (operator : Operator) (kind : ConditionKind)
  | operand (operator : Operator) (needed : OperandShape) (found : Value.Kind)
  | emptyRange (low high : Float)
  | pattern (text : String)
  | missing (field : Field)
  | notText (operator : Operator) (found : Value.Kind)
  | notNumber (found : Value.Kind) (shown : String)
deriving Repr

def ConditionFault.detail : ConditionFault → String
  | .field fault => fault.detail
  | .time fault => fault.detail
  | .fieldOperator operator =>
    "time_based conditions only support BEFORE, AFTER, BETWEEN, EXISTS and NOT_EXISTS, got " ++
      operator.name
  | .timeOperator operator kind =>
    s!"{operator.name} is only valid on time_based conditions, not {kind.name}"
  | .operand operator needed found =>
    s!"{operator.name} requires {needed.detail}, got {found.name}"
  | .emptyRange low high =>
    s!"IN_RANGE lower bound {Number.Layout.plain.render low} exceeds upper bound " ++
      Number.Layout.plain.render high
  | .pattern text => s!"invalid regex '{text}'"
  | .missing absent => absent.display
  | .notText operator found =>
    s!"{operator.name} cannot be applied to a field of type {found.name}"
  | .notNumber found shown => s!"cannot compare {found.name} value '{shown}' numerically"

def ConditionFault.kind : ConditionFault → FaultKind
  | .field _ | .pattern _ => .invalidCondition
  | .missing _ => .fieldNotFound
  | .time _ | .fieldOperator _ | .timeOperator _ _ | .operand _ _ _ | .emptyRange _ _
  | .notText _ _ | .notNumber _ _ => .conditionType

def ConditionFault.message (fault : ConditionFault) : String :=
  fault.kind.message fault.detail

/-- A condition on one field of what is evaluated, or on the clock. It may be built whatever its
parts are; whether they suit each other is for `Condition.validate` to say, and an evaluation
finds it out by itself. -/
structure Condition where
  kind : ConditionKind
  /-- The name of the field; a condition on the clock needs none. -/
  field : String
  operator : Operator
  operand : Value
  /-- The condition holds when the comparison does not. -/
  negate : Bool
  /-- Texts and patterns are compared without regard to case unless this is set. -/
  caseSensitive : Bool
deriving Inhabited

namespace Condition

def on (kind : ConditionKind) (field : String) (operator : Operator) (operand : Value) :
    Condition :=
  ⟨kind, field, operator, operand, false, false⟩

def onClock (operator : Operator) (operand : Value) : Condition :=
  on .timeBased "" operator operand

def negated (c : Condition) : Condition :=
  { c with negate := !c.negate }

def withCase (c : Condition) : Condition :=
  { c with caseSensitive := true }

def resolve (c : Condition) : Except FieldFault Field :=
  Field.resolve c.kind c.field

/-- The field as the condition's text shows it: by the kind and the name as given when there is no
such field. -/
def displayField (c : Condition) : String :=
  match c.resolve with
  | .ok field => field.display
  | .error _ => c.kind.name ++ "." ++ c.field

/-- The condition in words, such as `user.tier EQUALS vip`. -/
def describe (c : Condition) : String :=
  let base :=
    if c.operator.isExistence then s!"{c.displayField} {c.operator.name}"
    else s!"{c.displayField} {c.operator.name} {c.operand.display}"
  if c.negate then s!"NOT ({base})" else base

/-! ## Validation -/

/-- Time operators read the clock, so they go with conditions on it and with no others; beside them
such a condition takes only the existence operators. -/
def checkPairing (c : Condition) : Except ConditionFault Unit :=
  if c.kind = .timeBased then
    if c.operator.isTime || c.operator.isExistence then .ok ()
    else .error (.fieldOperator c.operator)
  else if c.operator.isTime then .error (.timeOperator c.operator c.kind)
  else .ok ()

def texts? (items : List Value) : Option (List String) :=
  items.mapM Value.text?

/-- The texts that an operand names: one, or a list of at least one. -/
def needles? : Value → Option (List String)
  | .text s => some [s]
  | .list [] => none
  | .list items => texts? items
  | _ => none

def wrongShape (c : Condition) (needed : OperandShape) : Except ConditionFault Unit :=
  .error (.operand c.operator needed c.operand.kind)

/-- Whether the operand has the shape that the operator needs. The kind of condition makes no
difference here, only what the operator compares with: a pattern, texts, a number, a pair of
numbers in order, a list, anything but an object, or times of the day. -/
def checkShape (c : Condition) : Except ConditionFault Unit :=
  match c.operator with
  | .regexMatches =>
    match c.operand with
    | .text _ => .ok ()
    | _ => c.wrongShape .pattern
  | .contains | .notContains | .startsWith | .endsWith =>
    match needles? c.operand with
    | some _ => .ok ()
    | none => c.wrongShape .texts
  | .greaterThan | .lessThan | .greaterEqual | .lessEqual =>
    match c.operand with
    | .number _ => .ok ()
    | _ => c.wrongShape .number
  | .inRange =>
    match c.operand with
    | .list [.number low, .number high] =>
      if low ≤ high then .ok () else .error (.emptyRange low high)
    | _ => c.wrongShape .range
  | .inList | .notInList =>
    match c.operand with
    | .list _ => .ok ()
    | _ => c.wrongShape .list
  | .equals | .notEquals =>
    match c.operand with
    | .object _ => c.wrongShape .comparable
    | _ => .ok ()
  | .before | .after =>
    match TimeOfDay.ofValue c.operand with
    | .ok _ => .ok ()
    | .error cause => .error (.time cause)
  | .between =>
    match TimeWindow.ofValue c.operand with
    | .ok _ => .ok ()
    | .error cause => .error (.time cause)
  | .isTrue | .isFalse | .exists | .notExists => .ok ()

def checkOperand (c : Condition) : Except ConditionFault Unit := do
  c.checkPairing
  c.checkShape

/-- What a pattern is compiled from. Two conditions with one text share a pattern if they look at
case alike. -/
structure PatternKey where
  caseSensitive : Bool
  text : String
deriving DecidableEq, Repr

def PatternKey.compile? (key : PatternKey) : Option Pattern :=
  Pattern.read? key.caseSensitive key.text

/-- The pattern that the operand gives, if the operator needs one and the operand is a text. -/
def patternKey? (c : Condition) : Option PatternKey :=
  match c.operator, c.operand with
  | .regexMatches, .text s => some ⟨c.caseSensitive, s⟩
  | _, _ => none

def checkPattern (compile : PatternKey → Option Pattern) (c : Condition) :
    Except ConditionFault Unit :=
  match c.patternKey? with
  | some key => if (compile key).isSome then .ok () else .error (.pattern key.text)
  | none => .ok ()

/-- Whether the condition can be decided, but for what the scope holds, if patterns are compiled
as given. The field is checked first, then the operator against the kind, the operand against the
operator, and the pattern. -/
def validateWith (compile : PatternKey → Option Pattern) (c : Condition) :
    Except ConditionFault Unit := do
  match c.resolve with
  | .ok _ => .ok ()
  | .error cause => .error (.field cause)
  c.checkOperand
  c.checkPattern compile

def validate (c : Condition) : Except ConditionFault Unit :=
  c.validateWith PatternKey.compile?

end Condition

end Escalation
