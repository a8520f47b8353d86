import Escalation.Condition.Evaluate
import Escalation.Proofs.Keyed

/-!
# Where the value of a field comes from

The value of a field is a text, a truth value, a count, or the confidence of the decision, or it is
stored in some attributes, there or in an object on the way. So a property has it that plain values
have, that members have from their objects (`Value.Inherited`), and that what is stored in the scope
has (`Scope.Stores`): that is `Field.of_lookup`, whatever the path to the value.
-/

namespace Escalation

variable {p : Value → Prop} {value found : Value}

/-- A property of plain values, which members have from their objects. -/
structure Value.Inherited (p : Value → Prop) : Prop where
  bool : ∀ b, p (.bool b)
  text : ∀ s, p (.text s)
  count : ∀ n, p (.count n)
  member : ∀ {members : List (String × Value)}, p (.object members) → ∀ e ∈ members, p e.2

/-- What is stored in a scope has a property. -/
structure Scope.Stores (p : Value → Prop) (scope : Scope) : Prop where
  confidence : p (.number scope.decision.confidence)
  triggerResults : ∀ e ∈ scope.decision.triggerResults.entries, p e.2
  userAttributes : ∀ e ∈ scope.context.userAttributes.entries, p e.2
  entities : ∀ e ∈ scope.context.entities.entries, p e.2
  contextMetadata : ∀ e ∈ scope.context.metadata.entries, p e.2
  metadata : ∀ e ∈ scope.metadata.entries, p e.2

theorem Value.Inherited.of_descend (h : Inherited p) {path : List String} (own : p value)
    (reached : value.descend path = some found) : p found := by
  induction path generalizing value with
  | nil =>
    cases reached
    exact own
  | cons name path ih =>
    cases value with
    | object members =>
      obtain ⟨member, here, onward⟩ := Option.bind_eq_some_iff.mp reached
      exact ih (h.member own _ (Keyed.mem_of_find? here)) onward
    | null | bool b | number x | text s | list items => cases reached

theorem Attributes.of_lookup (h : Value.Inherited p) {a : Attributes} {name : String}
    (stored : ∀ e ∈ a.entries, p e.2) (reached : a.lookup name = some value) : p value := by
  unfold lookup at reached
  split at reached
  · next here =>
    cases reached
    exact stored _ (Keyed.mem_of_find? here)
  · split at reached
    · obtain ⟨member, here, onward⟩ := Option.bind_eq_some_iff.mp reached
      exact h.of_descend (stored _ (Keyed.mem_of_find? here)) onward
    · cases reached

theorem MessageField.of_lookup (h : Value.Inherited p) {messages : List Message}
    {field : MessageField} (reached : field.lookup messages = some value) : p value := by
  cases field with
  | content | speaker | timestamp =>
    obtain ⟨message, -, rfl⟩ := Option.map_eq_some_iff.mp reached
    exact h.text _
  | length =>
    obtain ⟨message, -, rfl⟩ := Option.map_eq_some_iff.mp reached
    exact h.count _
  | conversation =>
    rw [lookup] at reached
    split at reached
    · cases reached
    · cases reached
      exact h.text _
  | messageCount =>
    cases reached
    exact h.count _

theorem TriggerField.of_lookup (h : Value.Inherited p) {scope : Scope} (stores : scope.Stores p)
    {field : TriggerField} (reached : field.lookup scope.decision = some value) : p value := by
  cases field with
  | shouldHandoff =>
    cases reached
    exact h.bool _
  | confidence =>
    cases reached
    exact stores.confidence
  | priority | reason | triggerType =>
    obtain ⟨word, -, rfl⟩ := Option.map_eq_some_iff.mp reached
    exact h.text _
  | named name => exact Attributes.of_lookup h stores.triggerResults reached

theorem Value.present?_eq_some (h : value.present? = some found) : value = found := by
  cases value with
  | null => cases h
  | bool b | number x | text s | list items | object members => exact Option.some.inj h

/-- **The value of a field has what all that is stored in the scope has.** -/
theorem Field.of_lookup (h : Value.Inherited p) {scope : Scope} (stores : scope.Stores p)
    {field : Field} (reached : field.lookup scope = some value) : p value := by
  obtain ⟨found, eq, present⟩ := Option.bind_eq_some_iff.mp reached
  obtain rfl := Value.present?_eq_some present
  cases field with
  | message field => exact MessageField.of_lookup h eq
  | user name => exact Attributes.of_lookup h stores.userAttributes eq
  | context name => exact Attributes.of_lookup h stores.contextMetadata eq
  | entity name => exact Attributes.of_lookup h stores.entities eq
  | metadata name => exact Attributes.of_lookup h stores.metadata eq
  | trigger field => exact TriggerField.of_lookup h stores eq
  | clock =>
    cases eq
    exact h.text _

/-- What a condition saw is the value of a field. -/
theorem Condition.exists_lookup {c : Condition} {scope : Scope}
    (saw : (c.evaluate scope).actual = some value) :
    ∃ field : Field, field.lookup scope = some value := by
  unfold evaluate evaluateWith at saw
  split at saw
  · cases saw
  · exact ⟨_, saw⟩

end Escalation
