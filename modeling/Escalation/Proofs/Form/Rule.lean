import Escalation.Form.Rule
import Escalation.Proofs.Form.Value
import Escalation.Proofs.Form.Variation

/-!
# Rules are read back

What is written of actions, conditions, rules and rule books is read back as what it was written of
(`ofJson?_toJson`), and is read the same from every other way of writing it (`respects`). The ways
are those of the schemas: a condition may name its kind in one of two members, a priority may stand
in capitals, and a member may be left out if it holds its default, at every place of a book.

The two laws are proved type by type, those of the parts first. The first needs that the numbers of
a rule fit and that its values have their members in order (`Rule.Regular`), which in a book that was
built from numbers of these sizes and from maps they do.
-/

namespace Escalation

open Form

/-! ## Priorities and actions -/

namespace Priority

/-- A document with the word of a priority in capitals, or as it is. -/
inductive Spelling : Json → Json → Prop
  | same (a : Json) : Spelling a a
  | capitals (p : Priority) : Spelling p.toJson (.text p.capitalName)

theorem ofJson?_toJson (d : Dialect) (p : Priority) : ofJson? d p.toJson = some p := by
  cases p <;> rfl

theorem ofJson?_capitalName (d : Dialect) (p : Priority) :
    ofJson? d (.text p.capitalName) = some p := by
  cases p <;> rfl

theorem respects (d : Dialect) : Respects Spelling (ofJson? d) := by
  rintro _ _ p h hr
  cases h with
  | same a => exact hr
  | capitals q => exact (ofJson?_capitalName d q).trans ((ofJson?_toJson d q).symm.trans hr)

theorem respects_nullable (d : Dialect) : Respects Spelling (nullable? (ofJson? d)) := by
  rintro _ _ p h hr
  cases h with
  | same a => exact hr
  | capitals q =>
    have capital : nullable? (ofJson? d) (.text q.capitalName) = some (some q) :=
      congrArg (Option.map some) (ofJson?_capitalName d q)
    have small : nullable? (ofJson? d) q.toJson = some (some q) :=
      congrArg (Option.map some) (ofJson?_toJson d q)
    exact capital.trans (small.symm.trans hr)

end Priority

theorem Assignment.ofJson?_toJson (a : Assignment) : ofJson? a.toJson = some a := by
  cases a <;> rfl

namespace Action

/-- The members of an action's form. -/
def schema : Schema where
  slots :=
    [{ name := "type" }, { name := "agent_id" }, { name := "queue_id" }, { name := "department" },
      { name := "priority", varies := Priority.Spelling }, { name := "tags" }, { name := "key" },
      { name := "value" }, { name := "reason", default := some .null }]
  apart := by decide

/-- The value that an action stores has its members in order. -/
def Canonical : Action → Prop
  | setCustomField _ value => value.Canonical
  | _ => True

/-- **An action is read back.** -/
theorem ofJson?_toJson (a : Action) (h : a.Canonical) : ofJson? a.toJson = some a := by
  cases a with
  | assignAgent id | assignQueue id | assignDepartment name => rfl
  | setPriority p => exact congrArg (Option.map setPriority) (Priority.ofJson?_toJson .json p)
  | addTags tags => exact congrArg (Option.map addTags) (list?_texts .json tags)
  | removeTags tags => exact congrArg (Option.map removeTags) (list?_texts .json tags)
  | setCustomField key value =>
    have stored := Value.ofJson?_toJson value h
    exact congrArg (Option.bind · fun v => some (setCustomField key v)) stored
  | routeToFallback reason => cases reason <;> rfl

theorem reads_ofMembers? (kind : ActionKind) : Reads schema (ofMembers? · kind) := by
  cases kind with
  | assignAgent => exact .map _ (.required ["agent_id"] rfl rfl respects_eq)
  | assignQueue => exact .map _ (.required ["queue_id"] rfl rfl respects_eq)
  | assignDepartment => exact .map _ (.required ["department"] rfl rfl respects_eq)
  | setPriority => exact .map _ (.required ["priority"] rfl rfl (Priority.respects .json))
  | addTags | removeTags => exact .map _ (.required ["tags"] rfl rfl respects_eq)
  | setCustomField =>
    exact .bind (.required ["key"] rfl rfl respects_eq) fun _ =>
      .bind (.required ["value"] rfl rfl respects_eq) fun _ => .const _
  | routeToFallback => exact .map _ (.orDefault ["reason"] rfl (.inr rfl) respects_eq)

theorem respects : Respects (Record schema) ofJson? :=
  .record <| .bind (.required ["type"] rfl rfl respects_eq) fun _ =>
    .bind (.const _) fun kind => reads_ofMembers? kind

end Action

/-! ## Conditions -/

namespace Condition

/-- The members of a condition's form. -/
def schema : Schema where
  slots :=
    [{ name := "type", aliases := ["kind"] }, { name := "field", default := some (.text "") },
      { name := "operator" }, { name := "value", default := some .null },
      { name := "negate", default := some (.bool false) },
      { name := "case_sensitive", default := some (.bool false) }]
  apart := by decide

/-- **A condition is read back.** -/
theorem ofJson?_toJson (c : Condition) (h : c.operand.Canonical) :
    ofJson? .json c.toJson = some c := by
  have kind : ConditionKind.ofName? c.kind.name = some c.kind := by cases c.kind <;> rfl
  have operator : Operator.ofName? c.operator.name = some c.operator := by
    cases c.operator <;> rfl
  have operand := Value.ofJson?_toJson _ h
  simp only [ofJson?, toJson, members?, Option.bind_eq_bind, Option.bind_some,
    Option.bind_eq_some_iff]
  exact ⟨_, kind, _, rfl, _, operator, _, operand, _, rfl, _, rfl, rfl⟩

theorem respects : Respects (Record schema) (ofJson? .json) :=
  .record <| .bind (.required ["type", "kind"] rfl rfl respects_eq) fun _ =>
    .bind (.orDefault ["field"] rfl (.inr rfl) respects_eq) fun _ =>
    .bind (.required ["operator"] rfl rfl respects_eq) fun _ =>
    .bind (.orDefault ["value"] rfl (.inr rfl) respects_eq) fun _ =>
    .bind (.orDefault ["negate"] rfl (.inr rfl) respects_eq) fun _ =>
    .bind (.orDefault ["case_sensitive"] rfl (.inr rfl) respects_eq) fun _ => .const _

end Condition

/-! ## Rules -/

namespace RuleNotes

/-- The members of the form of notes. -/
def schema : Schema where
  slots :=
    [{ name := "description", default := some .null }, { name := "owner", default := some .null },
      { name := "tags", default := some (.list []) }]
  apart := by decide

/-- **Notes are read back.** -/
theorem ofJson?_toJson (n : RuleNotes) : ofJson? .json n.toJson = some n := by
  obtain ⟨description, owner, tags⟩ := n
  have list := list?_texts .json tags
  simp only [ofJson?, toJson, members?, Option.bind_eq_bind, Option.bind_some,
    Option.bind_eq_some_iff]
  cases description <;> cases owner <;> cases tags
  all_goals exact ⟨_, rfl, _, rfl, _, list, rfl⟩

theorem respects : Respects (Record schema) (ofJson? .json) :=
  .record <| .bind (.orDefault ["description"] rfl (.inr rfl) respects_eq) fun _ =>
    .bind (.orDefault ["owner"] rfl (.inr rfl) respects_eq) fun _ =>
    .bind (.orDefault ["tags"] rfl (.inr rfl) respects_eq) fun _ => .const _

end RuleNotes

namespace Rule

/-- The members of a rule's form. -/
def schema : Schema where
  slots :=
    [{ name := "name" }, { name := "priority", default := some (.ofInt 0) },
      { name := "enabled", default := some (.bool true) },
      { name := "conditions", default := some (.list [])
        varies := Items (Record Condition.schema) },
      { name := "actions", default := some (.list []), varies := Items (Record Action.schema) },
      { name := "metadata", default := some (.object []), varies := Record RuleNotes.schema }]
  apart := by decide

/-- **The numbers of a rule fit, and its values have their members in order.** -/
structure Regular (r : Rule) : Prop where
  priority : IsInt32 r.priority
  places : r.conditions.length < 2 ^ 64
  operands : ∀ c ∈ r.conditions, c.operand.Canonical
  actions : ∀ a ∈ r.actions, a.Canonical

/-- **A rule is read back.** -/
theorem ofJson?_toJson (r : Rule) (h : r.Regular) : ofJson? .json r.toJson = some r := by
  have priority := int32?_ofInt h.priority
  have conditions := list?_listOf .json fun c mem => Condition.ofJson?_toJson c (h.operands c mem)
  have actions := list?_listOf .json fun a mem => Action.ofJson?_toJson a (h.actions a mem)
  have notes := RuleNotes.ofJson?_toJson r.notes
  simp only [ofJson?, toJson, members?, Option.bind_eq_bind, Option.bind_some,
    Option.bind_eq_some_iff]
  exact ⟨_, rfl, _, priority, _, rfl, _, conditions, _, actions, _, notes, rfl⟩

theorem respects : Respects (Record schema) (ofJson? .json) :=
  .record <| .bind (.required ["name"] rfl rfl respects_eq) fun _ =>
    .bind (.orDefault ["priority"] rfl (.inr rfl) respects_eq) fun _ =>
    .bind (.orDefault ["enabled"] rfl (.inr rfl) respects_eq) fun _ =>
    .bind (.orDefault ["conditions"] rfl (.inr rfl)
      (respects_items .json Condition.respects)) fun _ =>
    .bind (.orDefault ["actions"] rfl (.inr rfl) (respects_items .json Action.respects)) fun _ =>
    .bind (.orDefault ["metadata"] rfl (.inr rfl) RuleNotes.respects) fun _ => .const _

end Rule

namespace RuleBook

/-- The members of a book's form. -/
def schema : Schema where
  slots :=
    [{ name := "rules", default := some (.list []), varies := Items (Record Rule.schema) },
      { name := "enable_caching", default := some (.bool true) },
      { name := "cache_ttl_secs", aliases := ["cache_ttl"], default := some (.ofNat 300) },
      { name := "cache_max_entries", default := some (.ofNat 10000) }]
  apart := by decide

/-- The rules of a book are regular, and its counts fit. -/
structure Regular (b : RuleBook) : Prop where
  rules : ∀ r ∈ b.rules, r.Regular
  ttl : b.cacheTtlSeconds < 2 ^ 64
  maxEntries : b.cacheMaxEntries < 2 ^ 64

/-- **A book is read back.** -/
theorem ofJson?_toJson (b : RuleBook) (h : b.Regular) : ofJson? .json b.toJson = some b := by
  have rules := list?_listOf .json fun r mem => Rule.ofJson?_toJson r (h.rules r mem)
  have ttl := count?_ofNat h.ttl
  have maxEntries := count?_ofNat h.maxEntries
  simp only [ofJson?, toJson, members?, Option.bind_eq_bind, Option.bind_some,
    Option.bind_eq_some_iff]
  exact ⟨_, rules, _, rfl, _, ttl, _, maxEntries, rfl⟩

theorem respects : Respects (Record schema) (ofJson? .json) :=
  .record <|
    .bind (.orDefault ["rules"] rfl (.inr rfl) (respects_items .json Rule.respects)) fun _ =>
    .bind (.orDefault ["enable_caching"] rfl (.inr rfl) respects_eq) fun _ =>
    .bind (.orDefault ["cache_ttl_secs", "cache_ttl"] rfl (.inr rfl) respects_eq) fun _ =>
    .bind (.orDefault ["cache_max_entries"] rfl (.inr rfl) respects_eq) fun _ => .const _

end RuleBook

end Escalation
