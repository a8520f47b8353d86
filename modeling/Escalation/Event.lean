import Escalation.Event.TagSet
import Escalation.Rule.Action
import Escalation.Time.TimeOfDay
import Escalation.Time.Timestamp
import Escalation.Value.Attributes

/-!
# Events

What rules are evaluated on: the context of a conversation, the decision that the triggers made of
it, the metadata of the request, and the time of day. A `Scope` is these four together. Rules read
all of a scope and change nothing of it.
-/

namespace Escalation

/-- A message of a conversation: what was said, by whom and when. -/
structure Message where
  content : String
  speaker : String
  timestamp : Time.Timestamp
deriving DecidableEq, Repr

def Message.defaultSpeaker : String := "user"

/-- What is known of a conversation: its messages, and what hosts and users have attached to it. -/
structure Context where
  conversationId : String := ""
  /-- The messages, the last one last. -/
  messages : List Message := []
  userAttributes : Attributes := .empty
  entities : Attributes := .empty
  metadata : Attributes := .empty
deriving Inhabited

/-- What the triggers decided: whether to hand the conversation over and why, and to whom. Actions
of rules change it further. -/
structure Decision where
  shouldHandoff : Bool := true
  confidence : Float := 1.0
  priority : Option Priority := none
  reason : Option String := none
  triggerType : Option String := none
  triggerResults : Attributes := .empty
  assignment : Option Assignment := none
  tags : TagSet := .empty
  routeToFallback : Bool := false
  fallbackReason : Option String := none
deriving Inhabited

/-- All that a condition may read, with one reading of the clock: the conditions of an evaluation
all see the same time of day. -/
structure Scope where
  context : Context
  decision : Decision
  metadata : Attributes
  now : TimeOfDay
deriving Inhabited

end Escalation
