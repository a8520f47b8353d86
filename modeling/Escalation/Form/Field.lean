import Escalation.Condition.Field
import Escalation.Json

/-!
# Forms of fields

How resolved fields stand in documents: the part of the scope that they read, then their name in
it. A trigger that is no part of the decision itself is told from those that are by standing in an
object.
-/

namespace Escalation

def TriggerField.toJson : TriggerField → Json
  | .shouldHandoff => .text "should_handoff"
  | .confidence => .text "confidence"
  | .priority => .text "priority"
  | .reason => .text "reason"
  | .triggerType => .text "trigger_type"
  | .named name => .object [("named", .text name)]

def Field.toJson : Field → Json
  | .message f => .list [.text "message", .text f.name]
  | .user name => .list [.text "user_attribute", .text name]
  | .context name => .list [.text "context_field", .text name]
  | .entity name => .list [.text "entity", .text name]
  | .metadata name => .list [.text "metadata", .text name]
  | .trigger f => .list [.text "trigger", f.toJson]
  | .clock => .list [.text "clock"]

end Escalation
