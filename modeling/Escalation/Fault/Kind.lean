/-!
# Kinds of faults

Every fault of a condition, an action or a rule is of one of five kinds, and its message begins
with the words for the kind.
-/

namespace Escalation

/-- The kind of a fault, with the words by which its message begins. The first three are of
conditions, the other two of actions and of rules. -/
inductive FaultKind where
  /-- The operator does not suit the operand or the value of the field. -/
  | conditionType
  /-- The field has no value. -/
  | fieldNotFound
  /-- The field is unknown or the pattern invalid. -/
  | invalidCondition
  /-- A parameter of an action is blank or cannot be stored. -/
  | actionParameter
  /-- The rule cannot be registered. -/
  | invalidRule
deriving DecidableEq, Repr

def FaultKind.label : FaultKind → String
  | conditionType => "Condition type error"
  | fieldNotFound => "Field not found"
  | invalidCondition => "Invalid condition"
  | actionParameter => "Action parameter error"
  | invalidRule => "Invalid rule"

def FaultKind.message (kind : FaultKind) (detail : String) : String :=
  kind.label ++ ": " ++ detail

end Escalation
