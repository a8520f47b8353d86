import Escalation.Json
import Escalation.Fault

/-!
# Forms of faults

How faults stand in documents: a word for the kind, by which a caller can tell them apart, and the
message. The word of a failure that passes on another one begins with the part of the library that
the other came from.
-/

namespace Escalation

def FaultKind.word : FaultKind → String
  | conditionType => "ConditionType"
  | fieldNotFound => "FieldNotFound"
  | invalidCondition => "InvalidCondition"
  | actionParameter => "ActionParameter"
  | invalidRule => "InvalidRule"

def FaultKind.ofWord? (word : String) : Option FaultKind :=
  [conditionType, fieldNotFound, invalidCondition, actionParameter, invalidRule].find?
    (·.word == word)

def EngineFault.word : EngineFault → String
  | .duplicateRule _ => "DuplicateRule"
  | .ruleNotFound _ => "RuleNotFound"
  | .evaluation .. => "Evaluation"
  | .fault cause => cause.kind.word

def RouterFault.word : RouterFault → String
  | .noSources => "Config"
  | .load _ => "Load"
  | .invalid .. => "Validation"
  | .engine cause => "Runtime." ++ cause.word
  | .rule cause => "Core." ++ cause.kind.word

def Form.fault (word message : String) : Json :=
  .object [("error", .text word), ("message", .text message)]

def ConditionFault.toJson (c : ConditionFault) : Json :=
  Form.fault c.kind.word c.message

def FieldFault.toJson (c : FieldFault) : Json :=
  (ConditionFault.field c).toJson

def TimeFault.toJson (c : TimeFault) : Json :=
  (ConditionFault.time c).toJson

def ActionFault.toJson (c : ActionFault) : Json :=
  Form.fault FaultKind.actionParameter.word c.message

def RuleFault.toJson (c : RuleFault) : Json :=
  Form.fault FaultKind.invalidRule.word c.message

def EngineFault.toJson (c : EngineFault) : Json :=
  Form.fault c.word c.message

def RouterFault.toJson (c : RouterFault) : Json :=
  Form.fault c.word c.message

end Escalation
