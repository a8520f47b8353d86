import Escalation.Engine.Profile
import Escalation.Form.Event

/-!
# Forms of outcomes

How traces and outcomes stand in documents. The times are written too; a host that measures none
writes zero.
-/

namespace Escalation

open Form

namespace ConditionTrace

/-- The trace of a form. A value that was seen cannot be null, so a missing member and null say
the same: that there was none. -/
def ofJson? (json : Json) : Option ConditionTrace := do
  let ms ← members? .json json
  let index ← required? ["index"] count? ms
  let expression ← required? ["expression"] text? ms
  let kind ← required? ["kind"] (word? .json ConditionKind.ofName?) ms
  let operator ← required? ["operator"] (word? .json Operator.ofName?) ms
  let expected ← required? ["expected"] Value.ofJson? ms
  let actual ← optional? ["actual"] Value.ofJson? ms
  let negated ← required? ["negated"] bool? ms
  let result ← required? ["result"] bool? ms
  let error ← optional? ["error"] text? ms
  some ⟨index, expression, kind, operator, expected, actual, negated, result, error⟩

def toJson (t : ConditionTrace) : Json :=
  .object
    ([("index", .ofNat t.index), ("expression", .text t.expression), ("kind", .text t.kind.name),
        ("operator", .text t.operator.name), ("expected", t.expected.toJson)] ++
      memberOf "actual" Value.toJson t.actual ++
      [("negated", .bool t.negated), ("result", .bool t.result)] ++ memberOf "error" .text t.error)

end ConditionTrace

namespace RuleTrace

def ofJson? (json : Json) : Option RuleTrace := do
  let ms ← members? .json json
  let ruleName ← required? ["rule_name"] text? ms
  let priority ← required? ["priority"] int32? ms
  let matched ← required? ["matched"] bool? ms
  let conditions ← required? ["conditions"] (list? .json ConditionTrace.ofJson?) ms
  let error ← optional? ["error"] text? ms
  let micros ← required? ["evaluation_time_us"] count? ms
  some ⟨ruleName, priority, matched, conditions, error, micros⟩

def toJson (t : RuleTrace) : Json :=
  .object
    ([("rule_name", .text t.ruleName), ("priority", .ofInt t.priority),
        ("matched", .bool t.matched), ("conditions", listOf ConditionTrace.toJson t.conditions)] ++
      memberOf "error" .text t.error ++ [("evaluation_time_us", .ofNat t.micros)])

end RuleTrace

namespace Diagnostic

def ofJson? (json : Json) : Option Diagnostic := do
  let ms ← members? .json json
  let ruleName ← required? ["rule_name"] text? ms
  let conditionIndex ← optional? ["condition_index"] count? ms
  let message ← required? ["message"] text? ms
  some ⟨ruleName, conditionIndex, message⟩

def toJson (d : Diagnostic) : Json :=
  .object
    ([("rule_name", .text d.ruleName)] ++ memberOf "condition_index" .ofNat d.conditionIndex ++
      [("message", .text d.message)])

end Diagnostic

namespace Outcome

def ofJson? (json : Json) : Option Outcome := do
  let ms ← members? .json json
  let matchedRule ← optional? ["matched_rule"] text? ms
  let matchedPriority ← optional? ["matched_priority"] int32? ms
  let actions ← required? ["actions"] (list? .json Action.ofJson?) ms
  let traces ← required? ["rule_traces"] (list? .json RuleTrace.ofJson?) ms
  let errors ← orDefault? ["errors"] [] (list? .json Diagnostic.ofJson?) ms
  let version ← required? ["registry_version"] count? ms
  let cacheHit ← orDefault? ["cache_hit"] false bool? ms
  let micros ← required? ["evaluation_time_us"] count? ms
  some ⟨matchedRule, matchedPriority, actions, traces, errors, version.toUInt64, cacheHit, micros⟩

def toJson (o : Outcome) : Json :=
  .object
    ([("matched_rule", orNull .text o.matchedRule)] ++
      memberOf "matched_priority" .ofInt o.matchedPriority ++
      [("actions", listOf Action.toJson o.actions),
        ("rule_traces", listOf RuleTrace.toJson o.traces)] ++
      nonemptyList "errors" Diagnostic.toJson o.errors ++
      [("registry_version", .ofNat o.version.toNat), ("cache_hit", .bool o.cacheHit),
        ("evaluation_time_us", .ofNat o.micros)])

end Outcome

end Escalation
