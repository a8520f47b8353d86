import Escalation.Form.Outcome
import Escalation.Proofs.Form.Event

/-!
# Outcomes are read back

What is written of traces, diagnostics and outcomes is read back as what it was written of, and is
read the same from every other way of writing it. The first needs that the numbers fit and that the
values have their members in order (`Outcome.Regular`). It also needs that no condition has seen
null, for a null in a trace is read as nothing having been seen.
-/

namespace Escalation

open Form

/-! ## Traces -/

theorem Value.toJson_ne_null {v : Value} (h : v ≠ .null) : v.toJson ≠ .null := by
  cases v with
  | null => exact absurd rfl h
  | bool b | number x | text s | list items | object members => simp [toJson, Json.ofFloat]

namespace ConditionTrace

/-- The members of the form of a condition's trace. -/
def schema : Schema where
  slots :=
    [{ name := "index" }, { name := "expression" }, { name := "kind" }, { name := "operator" },
      { name := "expected" }, { name := "actual", default := some .null }, { name := "negated" },
      { name := "result" }, { name := "error", default := some .null }]
  apart := by decide

/-- The place in a trace fits and its values have their members in order; null is not seen. -/
structure Regular (t : ConditionTrace) : Prop where
  index : t.index < 2 ^ 64
  expected : t.expected.Canonical
  actual : ∀ v ∈ t.actual, v.Canonical ∧ v ≠ .null

/-- **The trace of a condition is read back.** -/
theorem ofJson?_toJson (t : ConditionTrace) (h : t.Regular) : ofJson? t.toJson = some t := by
  obtain ⟨index, expression, kind, operator, expected, seen, negated, result, error⟩ := t
  have index := count?_ofNat h.index
  have kind : ConditionKind.ofName? kind.name = some kind := by cases kind <;> rfl
  have operator : Operator.ofName? operator.name = some operator := by cases operator <;> rfl
  have expected := Value.ofJson?_toJson _ h.expected
  have actual : nullable? Value.ofJson? (orNull Value.toJson seen) = some seen :=
    nullable?_orNull (fun v mem => Value.ofJson?_toJson v (h.actual v mem).1)
      fun v mem => Value.toJson_ne_null (h.actual v mem).2
  simp only [ofJson?, toJson, members?, Option.bind_eq_bind, Option.bind_some,
    Option.bind_eq_some_iff]
  cases seen <;> cases error
  all_goals
    exact ⟨_, index, _, rfl, _, kind, _, operator, _, expected, _, actual, _, rfl, _, rfl, _, rfl,
      rfl⟩

theorem respects : Respects (Record schema) ofJson? :=
  .record <| .bind (.required ["index"] rfl rfl respects_eq) fun _ =>
    .bind (.required ["expression"] rfl rfl respects_eq) fun _ =>
    .bind (.required ["kind"] rfl rfl respects_eq) fun _ =>
    .bind (.required ["operator"] rfl rfl respects_eq) fun _ =>
    .bind (.required ["expected"] rfl rfl respects_eq) fun _ =>
    .bind (.orDefault ["actual"] rfl (.inr rfl) respects_eq) fun _ =>
    .bind (.required ["negated"] rfl rfl respects_eq) fun _ =>
    .bind (.required ["result"] rfl rfl respects_eq) fun _ =>
    .bind (.orDefault ["error"] rfl (.inr rfl) respects_eq) fun _ => .const _

end ConditionTrace

namespace RuleTrace

/-- The members of the form of a rule's trace. -/
def schema : Schema where
  slots :=
    [{ name := "rule_name" }, { name := "priority" }, { name := "matched" },
      { name := "conditions", varies := Items (Record ConditionTrace.schema) },
      { name := "error", default := some .null }, { name := "evaluation_time_us" }]
  apart := by decide

/-- The numbers of a trace fit, and so do those of its conditions. -/
structure Regular (t : RuleTrace) : Prop where
  priority : IsInt32 t.priority
  conditions : ∀ c ∈ t.conditions, c.Regular
  micros : t.micros < 2 ^ 64

/-- **The trace of a rule is read back.** -/
theorem ofJson?_toJson (t : RuleTrace) (h : t.Regular) : ofJson? t.toJson = some t := by
  obtain ⟨ruleName, priority, matched, conditions, error, micros⟩ := t
  have priority := int32?_ofInt h.priority
  have conditions := list?_listOf .json fun c mem => ConditionTrace.ofJson?_toJson c
    (h.conditions c mem)
  have micros := count?_ofNat h.micros
  simp only [ofJson?, toJson, members?, Option.bind_eq_bind, Option.bind_some,
    Option.bind_eq_some_iff]
  cases error
  all_goals exact ⟨_, rfl, _, priority, _, rfl, _, conditions, _, rfl, _, micros, rfl⟩

theorem respects : Respects (Record schema) ofJson? :=
  .record <| .bind (.required ["rule_name"] rfl rfl respects_eq) fun _ =>
    .bind (.required ["priority"] rfl rfl respects_eq) fun _ =>
    .bind (.required ["matched"] rfl rfl respects_eq) fun _ =>
    .bind (.required ["conditions"] rfl rfl (respects_items .json ConditionTrace.respects)) fun _ =>
    .bind (.orDefault ["error"] rfl (.inr rfl) respects_eq) fun _ =>
    .bind (.required ["evaluation_time_us"] rfl rfl respects_eq) fun _ => .const _

end RuleTrace

/-! ## Diagnostics and outcomes -/

namespace Diagnostic

/-- The members of the form of a diagnostic. -/
def schema : Schema where
  slots :=
    [{ name := "rule_name" }, { name := "condition_index", default := some .null },
      { name := "message" }]
  apart := by decide

/-- The place in a diagnostic fits. -/
def Regular (d : Diagnostic) : Prop :=
  ∀ index ∈ d.conditionIndex, index < 2 ^ 64

/-- **A diagnostic is read back.** -/
theorem ofJson?_toJson (d : Diagnostic) (h : d.Regular) : ofJson? d.toJson = some d := by
  obtain ⟨ruleName, conditionIndex, message⟩ := d
  have place : nullable? count? (orNull .ofNat conditionIndex) = some conditionIndex :=
    nullable?_orNull (fun index mem => count?_ofNat (h index mem)) fun _ _ => nofun
  simp only [ofJson?, toJson, members?, Option.bind_eq_bind, Option.bind_some,
    Option.bind_eq_some_iff]
  cases conditionIndex
  all_goals exact ⟨_, rfl, _, place, _, rfl, rfl⟩

theorem respects : Respects (Record schema) ofJson? :=
  .record <| .bind (.required ["rule_name"] rfl rfl respects_eq) fun _ =>
    .bind (.orDefault ["condition_index"] rfl (.inr rfl) respects_eq) fun _ =>
    .bind (.required ["message"] rfl rfl respects_eq) fun _ => .const _

end Diagnostic

namespace Outcome

/-- The members of an outcome's form. -/
def schema : Schema where
  slots :=
    [{ name := "matched_rule", default := some .null },
      { name := "matched_priority", default := some .null },
      { name := "actions", varies := Items (Record Action.schema) },
      { name := "rule_traces", varies := Items (Record RuleTrace.schema) },
      { name := "errors", default := some (.list []), varies := Items (Record Diagnostic.schema) },
      { name := "registry_version" }, { name := "cache_hit", default := some (.bool false) },
      { name := "evaluation_time_us" }]
  apart := by decide

/-- **The numbers of an outcome fit, and its values have their members in order.** -/
structure Regular (o : Outcome) : Prop where
  priority : ∀ p ∈ o.matchedPriority, IsInt32 p
  actions : ∀ a ∈ o.actions, a.Canonical
  traces : ∀ t ∈ o.traces, t.Regular
  errors : ∀ d ∈ o.errors, d.Regular
  micros : o.micros < 2 ^ 64

/-- **An outcome is read back.** -/
theorem ofJson?_toJson (o : Outcome) (h : o.Regular) : ofJson? o.toJson = some o := by
  obtain ⟨matchedRule, matchedPriority, actions, traces, errors, version, cacheHit, micros⟩ := o
  have rule : nullable? text? (orNull .text matchedRule) = some matchedRule :=
    nullable?_orNull (fun _ _ => rfl) fun _ _ => nofun
  have actions := list?_listOf .json fun a mem => Action.ofJson?_toJson a (h.actions a mem)
  have traces := list?_listOf .json fun t mem => RuleTrace.ofJson?_toJson t (h.traces t mem)
  have count : count? (.ofNat version.toNat) = some version.toNat := count?_ofNat version.toNat_lt
  have whole : version.toNat.toUInt64 = version := UInt64.ofNat_toNat
  have micros := count?_ofNat h.micros
  have priority : nullable? int32? (orNull .ofInt matchedPriority) = some matchedPriority :=
    nullable?_orNull (fun p mem => int32?_ofInt (h.priority p mem)) fun _ _ => nofun
  have told := list?_listOf .json fun d mem => Diagnostic.ofJson?_toJson d (h.errors d mem)
  simp only [ofJson?, toJson, members?, Option.bind_eq_bind, Option.bind_some,
    Option.bind_eq_some_iff]
  cases matchedPriority <;> cases errors
  all_goals
    exact ⟨_, rule, _, priority, _, actions, _, traces, _, told, _, count, _, rfl, _, micros,
      by rw [whole]⟩

theorem respects : Respects (Record schema) ofJson? :=
  .record <| .bind (.orDefault ["matched_rule"] rfl (.inr rfl) respects_eq) fun _ =>
    .bind (.orDefault ["matched_priority"] rfl (.inr rfl) respects_eq) fun _ =>
    .bind (.required ["actions"] rfl rfl (respects_items .json Action.respects)) fun _ =>
    .bind (.required ["rule_traces"] rfl rfl (respects_items .json RuleTrace.respects)) fun _ =>
    .bind (.orDefault ["errors"] rfl (.inr rfl) (respects_items .json Diagnostic.respects)) fun _ =>
    .bind (.required ["registry_version"] rfl rfl respects_eq) fun _ =>
    .bind (.orDefault ["cache_hit"] rfl (.inr rfl) respects_eq) fun _ =>
    .bind (.required ["evaluation_time_us"] rfl rfl respects_eq) fun _ => .const _

end Outcome

end Escalation
