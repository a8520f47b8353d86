import Escalation.Condition.Field
import Escalation.Event
import Escalation.Text.Search

/-!
# Looking fields up

The value that a field has in a scope. A name with dots in it is first a name of its own, then a
path through objects. A null counts as no value.
-/

namespace Escalation

def Value.descend (value : Value) : List String → Option Value
  | [] => some value
  | name :: path =>
    match value with
    | .object members => (Keyed.find? name members).bind (·.descend path)
    | _ => none

/-- The names between the dots of a name. -/
def pathOf (name : String) : List String :=
  (Text.piecesBetween '.' name.toList).map String.ofList

/-- The value under a name, or at the end of the path that its dots make. An attribute of the
whole name comes first, dots and all. -/
def Attributes.lookup (a : Attributes) (name : String) : Option Value :=
  match a.find? name with
  | some value => some value
  | none =>
    match pathOf name with
    | first :: path => (a.find? first).bind (·.descend path)
    | [] => none

def Value.count (n : Nat) : Value :=
  .number (Number.ofInt n)

def MessageField.lookup (messages : List Message) : MessageField → Option Value
  | .content => messages.getLast?.map fun m => .text m.content
  | .speaker => messages.getLast?.map fun m => .text m.speaker
  | .timestamp => messages.getLast?.map fun m => .text m.timestamp.renderOffset
  | .length => messages.getLast?.map fun m => .count m.content.length
  | .conversation =>
    if messages.isEmpty then none
    else some (.text ("\n".intercalate (messages.map (·.content))))
  | .messageCount => some (.count messages.length)

def TriggerField.lookup (decision : Decision) : TriggerField → Option Value
  | .shouldHandoff => some (.bool decision.shouldHandoff)
  | .confidence => some (.number decision.confidence)
  | .priority => decision.priority.map fun p => .text p.name
  | .reason => decision.reason.map .text
  | .triggerType => decision.triggerType.map .text
  | .named name => decision.triggerResults.lookup name

def Value.present? : Value → Option Value
  | .null => none
  | value => some value

/-- The value of a field in a scope, unless it is missing or null. A condition cannot tell these
two apart. -/
def Field.lookup (scope : Scope) (field : Field) : Option Value :=
  let value :=
    match field with
    | .message field => field.lookup scope.context.messages
    | .user name => scope.context.userAttributes.lookup name
    | .context name => scope.context.metadata.lookup name
    | .entity name => scope.context.entities.lookup name
    | .metadata name => scope.metadata.lookup name
    | .trigger field => field.lookup scope.decision
    | .clock => some (.text scope.now.display)
  value.bind Value.present?

end Escalation
