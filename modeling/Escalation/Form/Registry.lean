import Escalation.Form.Outcome

/-!
# Forms of rule sets, tests and profiles

How a set of registered rules stands in documents: its version, what is known of it as a whole, and
its rules in the order of evaluation. A test of a rule is only written; a profile is read too, for
its slowest rules may be asked for later.
-/

namespace Escalation

open Form

/-- The form of a registered rule, which stands for the rule: what its place depends on. -/
def RegisteredRule.toJson (e : RegisteredRule) : Json :=
  .list [.text e.rule.name, .ofInt e.rule.priority, .ofNat e.sequence]

def RuleSet.toJson (s : RuleSet) : Json :=
  .object
    [("version", .ofNat s.version.toNat), ("len", .ofNat s.size),
      ("empty", .bool s.entries.isEmpty), ("order", .list (s.entries.map RegisteredRule.toJson)),
      ("has_time_conditions", .bool s.hasTimeConditions),
      ("reads_message_timestamps", .bool s.readsTimestamps)]

def RuleTest.toJson (t : RuleTest) : Json :=
  .object
    ([("rule_name", .text t.ruleName), ("priority", .ofInt t.priority),
        ("enabled", .bool t.enabled), ("matched", .bool t.matched),
        ("conditions", listOf ConditionTrace.toJson t.conditions)] ++
      memberOf "error" .text t.error ++ memberOf "validation_error" .text t.invalid ++
      [("actions", listOf Action.toJson t.actions), ("evaluation_time_us", .ofNat t.micros)])

namespace RuleProfile

def ofJson? (json : Json) : Option RuleProfile := do
  let ms ← members? .json json
  let name ← required? ["name"] text? ms
  let priority ← required? ["priority"] int32? ms
  let matched ← required? ["matched"] bool? ms
  let millis ← required? ["ms"] float? ms
  let error ← optional? ["error"] text? ms
  some ⟨name, priority, matched, millis, error⟩

def toJson (p : RuleProfile) : Json :=
  .object
    ([("name", .text p.name), ("priority", .ofInt p.priority), ("matched", .bool p.matched),
        ("ms", .ofFloat p.millis)] ++
      memberOf "error" .text p.error)

end RuleProfile

namespace Profile

def ofJson? (json : Json) : Option Profile := do
  let ms ← members? .json json
  let totalMillis ← required? ["totalMs"] float? ms
  let perRule ← required? ["perRule"] (list? .json RuleProfile.ofJson?) ms
  let firstMatch ← optional? ["firstMatch"] text? ms
  some ⟨totalMillis, perRule, firstMatch⟩

def toJson (p : Profile) : Json :=
  .object
    [("totalMs", .ofFloat p.totalMillis), ("perRule", listOf RuleProfile.toJson p.perRule),
      ("firstMatch", orNull .text p.firstMatch)]

end Profile

end Escalation
