import Escalation.Proofs.Condition.Lookup
import Escalation.Proofs.Condition.Validity
import Escalation.Proofs.Engine.Rules
import Escalation.Proofs.Form.Outcome
import Escalation.Proofs.Rule.Told

/-!
# Outcomes are regular

An engine whose rules are regular answers with regular outcomes, and those can be read back from
their documents. The numbers in an outcome are priorities of rules, places of conditions, and the
times that a host puts into it (`Outcome.timed`). The values are operands of conditions, and what
the conditions saw: a text, a number, or a part of some attributes, which has its members in order
as they have; it is never null.

The law goes up from the values of fields (`Field.canonical_lookup`) over the trace of a condition
to the walk over any list of rules (`RuleSet.regular_walkRules`). The rules of an engine all come
from changes of its registry (`Engine.run_forall_rules`), and an outcome that was kept was the walk
of an earlier moment, so the law holds of every answer along every run.
-/

namespace Escalation

open Form
open Registry (Change)

/-! ## What conditions see -/

theorem Value.inherited_canonical : Inherited Canonical where
  bool _ := trivial
  text _ := trivial
  count _ := trivial
  member canonical := (canonicalMembers_iff _).mp canonical.2

theorem Attributes.canonical_entries (a : Attributes) : ∀ e ∈ a.entries, e.2.Canonical :=
  (Value.canonicalMembers_iff a.entries).mp a.canonical

theorem Scope.stores_canonical (scope : Scope) : scope.Stores Value.Canonical where
  confidence := trivial
  triggerResults := scope.decision.triggerResults.canonical_entries
  userAttributes := scope.context.userAttributes.canonical_entries
  entities := scope.context.entities.canonical_entries
  contextMetadata := scope.context.metadata.canonical_entries
  metadata := scope.metadata.canonical_entries

/-- **The value of a field has its members in order.** -/
theorem Field.canonical_lookup {scope : Scope} {field : Field} {value : Value}
    (h : field.lookup scope = some value) : value.Canonical :=
  of_lookup Value.inherited_canonical scope.stores_canonical h

/-! ## Traces -/

theorem Condition.evaluate_actual {c : Condition} {scope : Scope} {value : Value}
    (h : (c.evaluate scope).actual = some value) : value.Canonical ∧ value ≠ .null := by
  obtain ⟨field, seen⟩ := exists_lookup h
  refine ⟨Field.canonical_lookup seen, ?_⟩
  rintro rfl
  exact Field.lookup_ne_null _ _ seen

section Walk

variable {rule : Rule} {thoroughness : Thoroughness} {scope : Scope}

theorem Rule.regular_conditions (h : rule.Regular) :
    ∀ t ∈ (rule.run thoroughness scope).conditions, t.Regular := by
  intro t mem
  obtain ⟨c, own, place, below, rfl⟩ := mem_traces rule.conditions 0 mem
  exact
    { index := show place < 2 ^ 64 by have := h.places; omega
      expected := h.operands c own
      actual := fun _ seen => Condition.evaluate_actual seen }

theorem Rule.regular_trace (h : rule.Regular) :
    ((rule.run thoroughness scope).trace rule).Regular where
  priority := h.priority
  conditions := rule.regular_conditions h
  micros := Nat.two_pow_pos 64

theorem Rule.regular_diagnostic (h : rule.Regular) {d : Diagnostic}
    (told : (rule.run thoroughness scope).diagnostic = some d) : d.Regular := by
  obtain ⟨t, mem, own⟩ := List.exists_of_findSome?_eq_some told
  obtain ⟨message, -, rfl⟩ := Option.map_eq_some_iff.mp own
  rintro _ ⟨⟩
  exact (rule.regular_conditions h t mem).index

/-- The outcome with the times that a host has measured, its own and those of its rules. -/
def Outcome.timed (o : Outcome) (micros : UInt64) (times : RuleTrace → UInt64) : Outcome :=
  { o with
    traces := o.traces.map fun t => { t with micros := (times t).toNat }
    micros := micros.toNat }

theorem Outcome.Regular.timed {o : Outcome} (h : o.Regular) (micros : UInt64)
    (times : RuleTrace → UInt64) : (o.timed micros times).Regular :=
  { h with
    traces := by
      intro t mem
      obtain ⟨u, own, rfl⟩ := List.mem_map.mp mem
      exact { h.traces u own with micros := (times u).toNat_lt }
    micros := micros.toNat_lt }

/-- **A walk over regular rules has a regular outcome.** -/
theorem RuleSet.regular_walkRules {rules : List Rule} (version : UInt64)
    (regular : ∀ r ∈ rules, r.Regular) :
    (walkRules thoroughness scope version rules).Regular := by
  have told : (walkRules thoroughness scope version rules).ToldBy thoroughness scope rules :=
    walkRules_told version rules
  refine
    { priority := fun p given => ?_, actions := fun a mem => ?_, traces := fun t mem => ?_
      errors := fun d mem => ?_, micros := ?_ }
  · obtain ⟨r, own, rfl⟩ := told.priority p given
    exact (regular r own).priority
  · obtain ⟨r, own, stored⟩ := told.actions a mem
    exact (regular r own).actions a stored
  · obtain ⟨r, own, rfl⟩ := told.traces t mem
    exact r.regular_trace (regular r own)
  · obtain ⟨r, own, found⟩ := told.errors d mem
    exact r.regular_diagnostic (regular r own) found
  · rw [told.micros]
    exact Nat.two_pow_pos 64

end Walk

/-! ## Answers -/

namespace Engine

variable {e : Engine} {settings : Option CacheSettings} {before : List Change} {steps : List Step}
  (registry : e.registry = Registry.empty.afterAll before)
  (regular : ∀ c ∈ before ++ changes steps, ∀ r ∈ c.rules, r.Regular)

include registry regular

/-- **The outcome of all rules is regular** after every run. -/
theorem evaluateAll_regular (event : Event) : ((e.run steps).evaluateAll event).Regular :=
  RuleSet.regular_walkRules _ fun r mem =>
    run_forall_rules registry regular r (List.mem_filter.mp mem).1

/-- **An answer is regular** after every run, also one that was kept. -/
theorem evaluate_regular (empty : e.cache = settings.map .ofSettings) {now : Nat} {event : Event}
    {o : Outcome} (answer : ((e.run steps).evaluate now event).1 = .ok o) : o.Regular := by
  obtain ⟨past, later, other, hit, rfl, rfl⟩ := run_evaluate_origin empty answer
  have earlier := forall_changes_prefix regular
  have walk : ((e.run past).walk other).Regular :=
    RuleSet.regular_walkRules _ fun r mem =>
      run_forall_rules registry earlier r (List.mem_filter.mp mem).1
  exact { walk with }

end Engine

end Escalation
