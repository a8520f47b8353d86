import Escalation.Condition.Operator
import Escalation.Text.Search

/-!
# Fields

A condition names a field of one part of the scope. Messages and triggers have fields of their own,
of which the names are fixed; the maps take any name. `Field.resolve` turns the kind and the name
that a rule gives into a field.
-/

namespace Escalation

/-- The fields of a conversation's messages. All but the last two are about the last message. -/
inductive MessageField where
  | content
  | speaker
  | timestamp
  /-- How many characters the last message has. -/
  | length
  /-- The texts of all messages, one below the other. -/
  | conversation
  /-- How many messages there are. -/
  | messageCount
deriving DecidableEq, Repr

namespace MessageField

def name : MessageField → String
  | content => "content"
  | speaker => "speaker"
  | timestamp => "timestamp"
  | length => "length"
  | conversation => "conversation"
  | messageCount => "message_count"

/-- The field that a name stands for, whatever the case of its letters and the blanks around it.
Some fields have more than one name. -/
def ofName? (text : String) : Option MessageField :=
  match Text.lowerAscii (Text.trim text) with
  | "content" | "text" | "message" => some content
  | "speaker" | "role" => some speaker
  | "timestamp" => some timestamp
  | "length" => some length
  | "conversation" | "all_content" => some conversation
  | "message_count" => some messageCount
  | _ => none

end MessageField

inductive TriggerField where
  | shouldHandoff
  | confidence
  | priority
  | reason
  | triggerType
  /-- A named result among the trigger results. -/
  | named (name : String)
deriving DecidableEq, Repr

namespace TriggerField

/-- The field that a name stands for: one of the decision's own, or the result of that name. -/
def ofName (text : String) : TriggerField :=
  match Text.trim text with
  | "should_handoff" => shouldHandoff
  | "confidence" => confidence
  | "priority" => priority
  | "reason" => reason
  | "trigger_type" | "trigger" => triggerType
  | other => named other

def display : TriggerField → String
  | shouldHandoff => "ShouldHandoff"
  | confidence => "Confidence"
  | priority => "Priority"
  | reason => "Reason"
  | triggerType => "TriggerType"
  | named name => name

end TriggerField

/-- A field of a scope: what a condition reads. Names of the user's attributes and the like may
have dots, which lead into objects. -/
inductive Field where
  | message (field : MessageField)
  | user (name : String)
  | context (name : String)
  | entity (name : String)
  | metadata (name : String)
  | trigger (field : TriggerField)
  | clock
deriving DecidableEq, Repr

inductive FieldFault where
  | blank (kind : ConditionKind)
  | unknownMessageField (name : String)
deriving DecidableEq, Repr

def FieldFault.detail : FieldFault → String
  | .blank kind => s!"{kind.name} condition requires a field name"
  | .unknownMessageField name => s!"unknown message field '{name}'"

namespace Field

/-- The field that a condition of that kind means by a name. Only the clock needs no name. -/
def resolve (kind : ConditionKind) (text : String) : Except FieldFault Field :=
  let name := Text.trim text
  if kind = .timeBased then .ok .clock
  else if name = "" then .error (.blank kind)
  else
    match kind with
    | .messageContent =>
      match MessageField.ofName? name with
      | some field => .ok (.message field)
      | none => .error (.unknownMessageField name)
    | .userAttribute => .ok (.user name)
    | .contextField => .ok (.context name)
    | .entity => .ok (.entity name)
    | .metadata => .ok (.metadata name)
    | .triggerResult => .ok (.trigger (.ofName name))
    | .timeBased => .ok .clock

def display : Field → String
  | message field => "message." ++ field.name
  | user name => "user." ++ name
  | context name => "context." ++ name
  | entity name => "entity." ++ name
  | metadata name => "metadata." ++ name
  | trigger field => "trigger." ++ field.display
  | clock => "clock"

end Field

end Escalation
