import Escalation.Form.Value
import Escalation.Rule.Book

/-!
# Forms of rules

How actions, conditions, rules and rule books stand in documents. The forms of actions are told
apart by their member `type`; null is never an empty list inside them, whatever the dialect.
-/

namespace Escalation

open Form

namespace Priority

def ofJson? (d : Dialect) : Reader Priority :=
  word? d ofName?

def toJson (p : Priority) : Json :=
  .text p.name

end Priority

namespace Assignment

def ofKind? (id kind : String) : Option Assignment :=
  [agent id, queue id, department id].find? (·.kindName == kind)

def ofJson? (json : Json) : Option Assignment := do
  let ms ← members? .json json
  let id ← required? ["id"] text? ms
  required? ["type"] (word? .json (ofKind? id)) ms

def toJson (a : Assignment) : Json :=
  .object [("type", .text a.kindName), ("id", .text a.id)]

end Assignment

namespace ActionKind

def all : List ActionKind :=
  [assignAgent, assignQueue, assignDepartment, setPriority, addTags, removeTags, setCustomField,
    routeToFallback]

def ofName? (word : String) : Option ActionKind :=
  all.find? (·.name == word)

end ActionKind

namespace Action

def ofMembers? (ms : Members) : ActionKind → Option Action
  | .assignAgent => (required? ["agent_id"] text? ms).map assignAgent
  | .assignQueue => (required? ["queue_id"] text? ms).map assignQueue
  | .assignDepartment => (required? ["department"] text? ms).map assignDepartment
  | .setPriority => (required? ["priority"] (Priority.ofJson? .json) ms).map setPriority
  | .addTags => (required? ["tags"] (list? .json text?) ms).map addTags
  | .removeTags => (required? ["tags"] (list? .json text?) ms).map removeTags
  | .setCustomField => do
    let key ← required? ["key"] text? ms
    let value ← required? ["value"] Value.ofJson? ms
    some (setCustomField key value)
  | .routeToFallback => (optional? ["reason"] text? ms).map routeToFallback

def ofJson? (json : Json) : Option Action := do
  let ms ← members? .json json
  let word ← required? ["type"] text? ms
  ofMembers? ms (← ActionKind.ofName? word)

def parameters : Action → Members
  | assignAgent id => [("agent_id", .text id)]
  | assignQueue id => [("queue_id", .text id)]
  | assignDepartment name => [("department", .text name)]
  | setPriority p => [("priority", p.toJson)]
  | addTags tags | removeTags tags => [("tags", listOf .text tags)]
  | setCustomField key value => [("key", .text key), ("value", value.toJson)]
  | routeToFallback reason => memberOf "reason" .text reason

def toJson (a : Action) : Json :=
  .object (("type", .text a.kind.name) :: a.parameters)

end Action

namespace Condition

/-- The condition of a form. Only the kind and the operator must be given; whether the parts suit
each other is not asked here. -/
def ofJson? (d : Dialect) (json : Json) : Option Condition := do
  let ms ← members? d json
  let kind ← required? ["type", "kind"] (word? d ConditionKind.ofName?) ms
  let field ← orDefault? ["field"] "" text? ms
  let operator ← required? ["operator"] (word? d Operator.ofName?) ms
  let operand ← orDefault? ["value"] .null Value.ofJson? ms
  let negate ← orDefault? ["negate"] false bool? ms
  let caseSensitive ← orDefault? ["case_sensitive"] false bool? ms
  some ⟨kind, field, operator, operand, negate, caseSensitive⟩

def toJson (c : Condition) : Json :=
  .object
    [("type", .text c.kind.name), ("field", .text c.field), ("operator", .text c.operator.name),
      ("value", c.operand.toJson), ("negate", .bool c.negate),
      ("case_sensitive", .bool c.caseSensitive)]

end Condition

namespace RuleNotes

def ofJson? (d : Dialect) (json : Json) : Option RuleNotes := do
  let ms ← members? d json
  let description ← optional? ["description"] text? ms
  let owner ← optional? ["owner"] text? ms
  let tags ← orDefault? ["tags"] [] (list? d text?) ms
  some ⟨description, owner, tags⟩

def toJson (n : RuleNotes) : Json :=
  .object
    (memberOf "description" .text n.description ++ memberOf "owner" .text n.owner ++
      nonemptyList "tags" .text n.tags)

end RuleNotes

namespace Rule

/-- The rule of a form. Only the name must be given. A rule may be read that is not valid, and so
can be told of by name. -/
def ofJson? (d : Dialect) (json : Json) : Option Rule := do
  let ms ← members? d json
  let name ← required? ["name"] text? ms
  let priority ← orDefault? ["priority"] 0 int32? ms
  let enabled ← orDefault? ["enabled"] true bool? ms
  let conditions ← orDefault? ["conditions"] [] (list? d (Condition.ofJson? d)) ms
  let actions ← orDefault? ["actions"] [] (list? d Action.ofJson?) ms
  let notes ← orDefault? ["metadata"] {} (RuleNotes.ofJson? d) ms
  some ⟨name, priority, enabled, conditions, actions, notes⟩

def toJson (r : Rule) : Json :=
  .object
    [("name", .text r.name), ("priority", .ofInt r.priority), ("enabled", .bool r.enabled),
      ("conditions", listOf Condition.toJson r.conditions),
      ("actions", listOf Action.toJson r.actions), ("metadata", r.notes.toJson)]

end Rule

namespace RuleBook

/-- The rule book of a form. Without members it is the book of no rules, with the cache on and its
default settings. -/
def ofJson? (d : Dialect) (json : Json) : Option RuleBook := do
  let ms ← members? d json
  let rules ← orDefault? ["rules"] [] (list? d (Rule.ofJson? d)) ms
  let enableCaching ← orDefault? ["enable_caching"] true bool? ms
  let ttl ← orDefault? ["cache_ttl_secs", "cache_ttl"] 300 count? ms
  let maxEntries ← orDefault? ["cache_max_entries"] 10000 count? ms
  some ⟨rules, enableCaching, ttl, maxEntries⟩

def toJson (b : RuleBook) : Json :=
  .object
    [("rules", listOf Rule.toJson b.rules), ("enable_caching", .bool b.enableCaching),
      ("cache_ttl_secs", .ofNat b.cacheTtlSeconds), ("cache_max_entries", .ofNat b.cacheMaxEntries)]

end RuleBook

end Escalation
