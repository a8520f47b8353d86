import Escalation.Form.Event
import Escalation.Proofs.Condition.Lookup
import Escalation.Proofs.Json.Ordered
import Escalation.Proofs.Value.Part
import Escalation.Router.Request
import Escalation.Router.Source

/-!
# Forms whose numbers stand in order

What is read of a document has the numbers that the document has, and the default of a member has
none that is not a number. So a request that is read of JSON text is about an event whose numbers
stand in order (`Request.ordered_read?`), and so do those in the value of a field of such an event
(`Field.ordered_lookup`). The rules of a book have the same if it is loaded from JSON
(`RuleBook.ordered_load`); YAML has a word for what is not a number.

A reader yields what has a property if it does so of every ordered document (`Form.Yields`), and
that goes from the reader of a part to those of a member and of a list.
-/

namespace Escalation

namespace Form

/-- **What the reader gives of an ordered document has the property.** -/
def Yields {α : Type} (p : α → Prop) (read : Reader α) : Prop :=
  ∀ json a, json.Ordered → read json = some a → p a

variable {α : Type} {p : α → Prop} {read : Reader α} {names : List String} {ms : Members} {a : α}

theorem ordered_members? {d : Dialect} {json : Json} (ordered : json.Ordered)
    (given : members? d json = some ms) : ∀ m ∈ ms, m.2.Ordered := by
  cases ordered with
  | object each =>
    cases given
    exact each
  | null =>
    cases d
    · cases given
    · cases given
      exact List.forall_mem_nil _
  | bool | integer | real | text | list | foreign => cases given

section Member

variable (ordered : ∀ m ∈ ms, m.2.Ordered)

include ordered

theorem ordered_given? {json : Json} (given : given? names ms = some (some json)) :
    json.Ordered := by
  unfold given? at given
  split at given
  · cases given
  · next only =>
    cases given
    have mem : (_, json) ∈ ms.filter fun m => names.contains m.1 := only ▸ List.mem_cons_self
    exact ordered _ (List.mem_filter.mp mem).1
  · cases given

theorem Yields.required (h : Yields p read) (got : required? names read ms = some a) : p a := by
  obtain ⟨given, found, got⟩ := Option.bind_eq_some_iff.mp got
  obtain ⟨json, rfl, got⟩ := Option.bind_eq_some_iff.mp got
  exact h json a (ordered_given? ordered found) got

theorem Yields.orDefault {default : α} (h : Yields p read) (plain : p default)
    (got : orDefault? names default read ms = some a) : p a := by
  obtain ⟨given, found, got⟩ := Option.bind_eq_some_iff.mp got
  cases given with
  | none =>
    cases got
    exact plain
  | some json => exact h json a (ordered_given? ordered found) got

end Member

theorem Yields.mapM (h : Yields p read) {items : List Json}
    (ordered : ∀ item ∈ items, item.Ordered) {as : List α} (got : items.mapM read = some as) :
    ∀ a ∈ as, p a := by
  induction items generalizing as with
  | nil =>
    cases got
    exact List.forall_mem_nil p
  | cons item items ih =>
    simp only [List.mapM_cons, Option.bind_eq_bind, Option.bind_eq_some_iff] at got
    obtain ⟨first, first_read, rest, rest_read, eq⟩ := got
    cases eq
    obtain ⟨here, behind⟩ := List.forall_mem_cons.mp ordered
    exact List.forall_mem_cons.mpr ⟨h item first here first_read, ih behind rest_read⟩

theorem Yields.list (h : Yields p read) (d : Dialect) :
    Yields (fun as => ∀ a ∈ as, p a) (list? d read) := by
  intro json as ordered got
  cases ordered with
  | list each => exact h.mapM each got
  | null =>
    cases d
    · cases got
    · cases got
      exact List.forall_mem_nil p
  | bool | integer | real | text | object | foreign => cases got

theorem yields_float? : Yields (·.isNaN = false) float? := by
  intro json x ordered got
  cases ordered with
  | integer n =>
    cases got
    exact Number.isNaN_ofInt n
  | real number =>
    cases got
    exact number
  | null | bool | text | list | object | foreign => cases got

end Form

open Form

/-! ## Values -/

namespace Value

mutual
theorem ordered_ofJson? : (json : Json) → json.Ordered → ∀ v, ofJson? json = some v → v.Ordered
  | .null, _, _, rfl | .bool _, _, _, rfl | .text _, _, _, rfl =>
    ordered_plain nofun nofun nofun
  | .number (.integer n), _, _, rfl => ordered_number.mpr (Number.isNaN_ofInt n)
  | .number (.real _), ordered, _, rfl => by
    cases ordered with
    | real number => exact ordered_number.mpr number
  | .list items, .list each, v, got => by
    obtain ⟨values, values_read, rfl⟩ := Option.map_eq_some_iff.mp got
    exact ordered_list.mpr (ordered_itemsOfJson? items each values values_read)
  | .object members, .object each, v, got => by
    obtain ⟨values, values_read, rfl⟩ := Option.map_eq_some_iff.mp got
    exact ordered_object.mpr fun e mem =>
      ordered_membersOfJson? members each values values_read e (Keyed.mem_of_mem_ofList mem)
  | .foreign, _, _, got => nomatch got
termination_by structural json => json
theorem ordered_itemsOfJson? : (items : List Json) → (∀ item ∈ items, item.Ordered) →
    ∀ values, itemsOfJson? items = some values → ∀ v ∈ values, v.Ordered
  | [], _, _, rfl => List.forall_mem_nil _
  | item :: items, each, values, got => by
    simp only [itemsOfJson?, Option.bind_eq_bind, Option.bind_eq_some_iff] at got
    obtain ⟨v, first, vs, rest, eq⟩ := got
    cases eq
    obtain ⟨here, behind⟩ := List.forall_mem_cons.mp each
    exact List.forall_mem_cons.mpr
      ⟨ordered_ofJson? item here v first, ordered_itemsOfJson? items behind vs rest⟩
termination_by structural items => items
theorem ordered_membersOfJson? : (members : List (String × Json)) →
    (∀ m ∈ members, m.2.Ordered) →
      ∀ values, membersOfJson? members = some values → ∀ e ∈ values, e.2.Ordered
  | [], _, _, rfl => List.forall_mem_nil _
  | (_, json) :: members, each, values, got => by
    simp only [membersOfJson?, Option.bind_eq_bind, Option.bind_eq_some_iff] at got
    obtain ⟨v, first, vs, rest, eq⟩ := got
    cases eq
    obtain ⟨here, behind⟩ := List.forall_mem_cons.mp each
    exact List.forall_mem_cons.mpr
      ⟨ordered_ofJson? json here v first, ordered_membersOfJson? members behind vs rest⟩
termination_by structural members => members
end

theorem yields_ofJson? : Yields Ordered ofJson? :=
  fun json v ordered got => ordered_ofJson? json ordered v got

end Value

theorem Attributes.yields_ofJson? : Yields Attributes.Ordered ofJson? := by
  intro json a ordered got
  cases ordered with
  | object each =>
    obtain ⟨values, values_read, rfl⟩ := Option.map_eq_some_iff.mp got
    exact ordered_ofList (Value.ordered_membersOfJson? _ each values values_read)
  | null | bool | integer | real | text | list | foreign => cases got

/-! ## Events -/

/-- The numbers of a context stand in order. -/
structure Context.Ordered (c : Context) : Prop where
  userAttributes : c.userAttributes.Ordered
  entities : c.entities.Ordered
  metadata : c.metadata.Ordered

theorem Context.yields_ofJson? (arrival : Time.Timestamp) :
    Yields Context.Ordered (ofJson? arrival) := by
  intro json c ordered got
  simp only [ofJson?, Option.bind_eq_bind, Option.bind_eq_some_iff] at got
  obtain ⟨ms, given, _, -, _, -, user, user_read, entities, entities_read, metadata,
    metadata_read, eq⟩ := got
  cases eq
  have members := ordered_members? ordered given
  exact
    { userAttributes := Attributes.yields_ofJson?.orDefault members Attributes.ordered_empty
        user_read
      entities := Attributes.yields_ofJson?.orDefault members Attributes.ordered_empty
        entities_read
      metadata := Attributes.yields_ofJson?.orDefault members Attributes.ordered_empty
        metadata_read }

/-- The numbers of a decision stand in order. -/
structure Decision.Ordered (d : Decision) : Prop where
  confidence : d.confidence.isNaN = false
  triggerResults : d.triggerResults.Ordered

theorem Decision.ordered_default : Decision.Ordered {} where
  confidence := by decide
  triggerResults := Attributes.ordered_empty

theorem Decision.yields_ofJson? : Yields Decision.Ordered ofJson? := by
  intro json d ordered got
  simp only [ofJson?, Option.bind_eq_bind, Option.bind_eq_some_iff] at got
  obtain ⟨ms, given, _, -, confidence, confidence_read, _, -, _, -, _, -, results, results_read,
    _, -, _, -, _, -, _, -, eq⟩ := got
  cases eq
  have members := ordered_members? ordered given
  have number := yields_float?.orDefault members Decision.ordered_default.confidence confidence_read
  exact
    { confidence := number
      triggerResults := Attributes.yields_ofJson?.orDefault members Attributes.ordered_empty
        results_read }

/-- **The numbers of an event stand in order.** -/
structure Event.Ordered (event : Event) : Prop where
  context : event.context.Ordered
  decision : event.decision.Ordered
  metadata : event.metadata.Ordered

/-- **The numbers of a request that is read of a text stand in order.** -/
theorem Request.ordered_read? {arrival : Time.Timestamp} {text : String} {request : Request}
    (read : (Json.read? text).bind (ofJson? arrival) = some request) : request.event.Ordered := by
  obtain ⟨json, json_read, got⟩ := Option.bind_eq_some_iff.mp read
  simp only [ofJson?, Option.bind_eq_bind, Option.bind_eq_some_iff] at got
  obtain ⟨ms, given, context, context_read, decision, decision_read, metadata, metadata_read,
    _, -, _, -, eq⟩ := got
  cases eq
  have members := ordered_members? (Json.ordered_read? json_read) given
  exact
    { context := (Context.yields_ofJson? arrival).required members context_read
      decision := Decision.yields_ofJson?.orDefault members Decision.ordered_default decision_read
      metadata := Attributes.yields_ofJson?.orDefault members Attributes.ordered_empty
        metadata_read }

theorem Value.inherited_ordered : Inherited Ordered where
  bool _ := ordered_plain nofun nofun nofun
  text _ := ordered_plain nofun nofun nofun
  count n := ordered_number.mpr (Number.isNaN_ofInt n)
  member ordered := ordered_object.mp ordered

/-- An event at a time of day. -/
def Event.scope (event : Event) (now : TimeOfDay) : Scope :=
  ⟨event.context, event.decision, event.metadata, now⟩

theorem Event.Ordered.stores {event : Event} (h : event.Ordered) (now : TimeOfDay) :
    (event.scope now).Stores Value.Ordered where
  confidence := Value.ordered_number.mpr h.decision.confidence
  triggerResults := h.decision.triggerResults
  userAttributes := h.context.userAttributes
  entities := h.context.entities
  contextMetadata := h.context.metadata
  metadata := h.metadata

/-- **The numbers in the value of a field stand in order** if those of the event do. -/
theorem Field.ordered_lookup {event : Event} (h : event.Ordered) {now : TimeOfDay} {field : Field}
    {value : Value} (reached : field.lookup (event.scope now) = some value) : value.Ordered :=
  of_lookup Value.inherited_ordered (h.stores now) reached

/-! ## Rules -/

/-- The numbers in the value that an action stores stand in order. -/
def Action.Ordered : Action → Prop
  | setCustomField _ value => value.Ordered
  | _ => True

theorem Action.yields_ofJson? : Yields Action.Ordered ofJson? := by
  intro json action ordered got
  simp only [ofJson?, Option.bind_eq_bind, Option.bind_eq_some_iff] at got
  obtain ⟨ms, given, word, -, kind, -, got⟩ := got
  cases kind with
  | setCustomField =>
    simp only [ofMembers?, Option.bind_eq_bind, Option.bind_eq_some_iff] at got
    obtain ⟨key, -, value, value_read, eq⟩ := got
    cases eq
    have stored := Value.yields_ofJson?.required (ordered_members? ordered given) value_read
    exact stored
  | assignAgent | assignQueue | assignDepartment | setPriority | addTags | removeTags
  | routeToFallback =>
    obtain ⟨parameter, -, rfl⟩ := Option.map_eq_some_iff.mp got
    trivial

/-- The numbers in the operands of a rule and in the values that it stores stand in order. -/
structure Rule.Ordered (rule : Rule) : Prop where
  operands : ∀ c ∈ rule.conditions, c.operand.Ordered
  actions : ∀ a ∈ rule.actions, a.Ordered

theorem Condition.yields_ofJson? (d : Dialect) :
    Yields (fun c : Condition => c.operand.Ordered) (ofJson? d) := by
  intro json c ordered got
  simp only [ofJson?, Option.bind_eq_bind, Option.bind_eq_some_iff] at got
  obtain ⟨ms, given, _, -, _, -, _, -, operand, operand_read, _, -, _, -, eq⟩ := got
  cases eq
  have null : Value.null.Ordered := Value.ordered_plain nofun nofun nofun
  exact Value.yields_ofJson?.orDefault (ordered_members? ordered given) null operand_read

theorem Rule.yields_ofJson? (d : Dialect) : Yields Rule.Ordered (ofJson? d) := by
  intro json rule ordered got
  simp only [ofJson?, Option.bind_eq_bind, Option.bind_eq_some_iff] at got
  obtain ⟨ms, given, _, -, _, -, _, -, conditions, conditions_read, actions, actions_read,
    _, -, eq⟩ := got
  cases eq
  have members := ordered_members? ordered given
  exact
    { operands := ((Condition.yields_ofJson? d).list d).orDefault members (List.forall_mem_nil _)
        conditions_read
      actions := (Action.yields_ofJson?.list d).orDefault members (List.forall_mem_nil _)
        actions_read }

namespace RuleBook

theorem yields_ofJson? (d : Dialect) :
    Yields (fun book : RuleBook => ∀ r ∈ book.rules, r.Ordered) (ofJson? d) := by
  intro json book ordered got
  simp only [ofJson?, Option.bind_eq_bind, Option.bind_eq_some_iff] at got
  obtain ⟨ms, given, rules, rules_read, _, -, _, -, _, -, eq⟩ := got
  cases eq
  exact ((Rule.yields_ofJson? d).list d).orDefault (ordered_members? ordered given)
    (List.forall_mem_nil _) rules_read

theorem yields_ofDocument? (d : Dialect) :
    Yields (fun book : RuleBook => ∀ r ∈ book.rules, r.Ordered) (ofDocument? d) := by
  intro json book ordered got
  unfold ofDocument? at got
  split at got
  · cases ordered with
    | list each =>
      obtain ⟨rules, rules_read, rfl⟩ := Option.map_eq_some_iff.mp got
      exact (Rule.yields_ofJson? d).mapM each rules_read
  · split at got
    · cases got
      exact List.forall_mem_nil _
    · cases got
  · exact yields_ofJson? d _ book ordered got

/-- **The numbers in the rules of a book that is loaded from JSON stand in order.** -/
theorem ordered_load {source text : String} {book : RuleBook}
    (loaded : load source .json text = .ok book) : ∀ r ∈ book.rules, r.Ordered := by
  unfold load at loaded
  split at loaded
  · cases loaded
  · next found =>
    split at loaded
    · cases loaded
      obtain ⟨json, document, got⟩ := Option.bind_eq_some_iff.mp found
      obtain ⟨json, json_read, rfl⟩ := Option.map_eq_some_iff.mp document
      exact yields_ofDocument? .json _ book
        (Json.ordered_lastWins json (Json.ordered_read? json_read)) got
    · cases loaded

end RuleBook

end Escalation
