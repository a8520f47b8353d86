import Escalation.Form.Rule
import Escalation.Rule.Apply

/-!
# Forms of events

How messages, contexts and decisions stand in documents. A message without a timestamp has the
instant of its arrival, which readers are given.
-/

namespace Escalation

open Form

namespace Time.Timestamp

def ofJson? (json : Json) : Option Timestamp :=
  (text? json).bind read?

def toJson (t : Timestamp) : Json :=
  .text t.render

end Time.Timestamp

namespace Message

def ofJson? (arrival : Time.Timestamp) (json : Json) : Option Message := do
  let ms ← members? .json json
  let content ← required? ["content"] text? ms
  let speaker ← orDefault? ["speaker", "role"] defaultSpeaker text? ms
  let timestamp ← orDefault? ["timestamp"] arrival Time.Timestamp.ofJson? ms
  some ⟨content, speaker, timestamp⟩

def toJson (m : Message) : Json :=
  .object
    [("content", .text m.content), ("speaker", .text m.speaker),
      ("timestamp", m.timestamp.toJson)]

end Message

namespace Context

/-- The context of a form. No member must be given, so the empty mapping is a context: an event
may tell of nothing but its conversation. -/
def ofJson? (arrival : Time.Timestamp) (json : Json) : Option Context := do
  let ms ← members? .json json
  let conversationId ← orDefault? ["conversation_id"] "" text? ms
  let messages ← orDefault? ["messages"] [] (list? .json (Message.ofJson? arrival)) ms
  let userAttributes ← orDefault? ["user_attributes"] .empty Attributes.ofJson? ms
  let entities ← orDefault? ["entities"] .empty Attributes.ofJson? ms
  let metadata ← orDefault? ["metadata"] .empty Attributes.ofJson? ms
  some ⟨conversationId, messages, userAttributes, entities, metadata⟩

def toJson (c : Context) : Json :=
  .object
    [("conversation_id", .text c.conversationId), ("messages", listOf Message.toJson c.messages),
      ("user_attributes", c.userAttributes.toJson), ("entities", c.entities.toJson),
      ("metadata", c.metadata.toJson)]

end Context

namespace TagSet

def ofJson? (json : Json) : Option TagSet :=
  (list? .json text? json).map ofList

def toJson (set : TagSet) : Json :=
  listOf .text set.tags

end TagSet

namespace Decision

/-- The decision of a form. Without members it is the default: to hand over, for no reason given
and to nobody. -/
def ofJson? (json : Json) : Option Decision := do
  let ms ← members? .json json
  let shouldHandoff ← orDefault? ["should_handoff"] true bool? ms
  let confidence ← orDefault? ["confidence"] 1.0 float? ms
  let priority ← optional? ["priority"] (Priority.ofJson? .json) ms
  let reason ← optional? ["reason"] text? ms
  let triggerType ← optional? ["trigger_type"] text? ms
  let triggerResults ← orDefault? ["trigger_results"] .empty Attributes.ofJson? ms
  let assignment ← optional? ["assignment"] Assignment.ofJson? ms
  let tags ← orDefault? ["tags"] .empty TagSet.ofJson? ms
  let routeToFallback ← orDefault? ["route_to_fallback"] false bool? ms
  let fallbackReason ← optional? ["fallback_reason"] text? ms
  some
    { shouldHandoff, confidence, priority, reason, triggerType, triggerResults, assignment, tags,
      routeToFallback, fallbackReason }

def toJson (d : Decision) : Json :=
  .object
    [("should_handoff", .bool d.shouldHandoff), ("confidence", .ofFloat d.confidence),
      ("priority", orNull Priority.toJson d.priority), ("reason", orNull .text d.reason),
      ("trigger_type", orNull .text d.triggerType),
      ("trigger_results", d.triggerResults.toJson),
      ("assignment", orNull Assignment.toJson d.assignment), ("tags", d.tags.toJson),
      ("route_to_fallback", .bool d.routeToFallback),
      ("fallback_reason", orNull .text d.fallbackReason)]

end Decision

def SkippedAction.toJson (s : SkippedAction) : Json :=
  .object
    [("index", .ofNat s.index), ("action_type", .text s.kind.name), ("error", .text s.cause.message)]

def Applied.toJson (a : Applied) : Json :=
  .object
    ([("decision", a.handoff.decision.toJson), ("metadata", a.handoff.metadata.toJson),
        ("applied", .ofNat a.applied)] ++
      nonemptyList "skipped" SkippedAction.toJson a.skipped)

end Escalation
