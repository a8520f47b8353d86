import Escalation.Form.Event
import Escalation.Proofs.Form.Rule

/-!
# Events are read back

What is written of a context or a decision is read back as what it was written of, and is read the
same from every other way of writing it. A message may name its speaker in one of two members. That
an instant is read back from its text is a premise of the messages of a context, since it is not a
matter of forms.
-/

namespace Escalation

open Form

namespace Message

/-- The members of a message's form. One without a timestamp has that of its arrival, so the
timestamp is never left out. -/
def schema : Schema where
  slots :=
    [{ name := "content" },
      { name := "speaker", aliases := ["role"], default := some (.text defaultSpeaker) },
      { name := "timestamp" }]
  apart := by decide

/-- **A message is read back** if its instant is. -/
theorem ofJson?_toJson (arrival : Time.Timestamp) (m : Message)
    (h : Time.Timestamp.read? m.timestamp.render = some m.timestamp) :
    ofJson? arrival m.toJson = some m := by
  have timestamp : Time.Timestamp.ofJson? m.timestamp.toJson = some m.timestamp := by
    rw [Time.Timestamp.ofJson?, Time.Timestamp.toJson, text?, Option.bind_some, h]
  simp [ofJson?, toJson, members?, required?, orDefault?, given?, text?, timestamp]

theorem respects (arrival : Time.Timestamp) : Respects (Record schema) (ofJson? arrival) :=
  .record <| .bind (.required ["content"] rfl rfl respects_eq) fun _ =>
    .bind (.orDefault ["speaker", "role"] rfl (.inr rfl) respects_eq) fun _ =>
    .bind (.orDefault ["timestamp"] rfl (.inl rfl) respects_eq) fun _ => .const _

end Message

namespace Context

/-- The members of a context's form. -/
def schema : Schema where
  slots :=
    [{ name := "conversation_id", default := some (.text "") },
      { name := "messages", default := some (.list []), varies := Items (Record Message.schema) },
      { name := "user_attributes", default := some (.object []) },
      { name := "entities", default := some (.object []) },
      { name := "metadata", default := some (.object []) }]
  apart := by decide

/-- **A context is read back** if the instants of its messages are. -/
theorem ofJson?_toJson (arrival : Time.Timestamp) (c : Context)
    (h : ∀ m ∈ c.messages, Time.Timestamp.read? m.timestamp.render = some m.timestamp) :
    ofJson? arrival c.toJson = some c := by
  have messages := list?_listOf .json fun m mem => Message.ofJson?_toJson arrival m (h m mem)
  simp only [ofJson?, toJson, members?, Option.bind_eq_bind, Option.bind_some,
    Option.bind_eq_some_iff]
  exact ⟨_, rfl, _, messages, _, Attributes.ofJson?_toJson _, _, Attributes.ofJson?_toJson _,
    _, Attributes.ofJson?_toJson _, rfl⟩

theorem respects (arrival : Time.Timestamp) : Respects (Record schema) (ofJson? arrival) :=
  .record <| .bind (.orDefault ["conversation_id"] rfl (.inr rfl) respects_eq) fun _ =>
    .bind (.orDefault ["messages"] rfl (.inr rfl)
      (respects_items .json (Message.respects arrival))) fun _ =>
    .bind (.orDefault ["user_attributes"] rfl (.inr rfl) respects_eq) fun _ =>
    .bind (.orDefault ["entities"] rfl (.inr rfl) respects_eq) fun _ =>
    .bind (.orDefault ["metadata"] rfl (.inr rfl) respects_eq) fun _ => .const _

end Context

namespace TagSet

theorem insertTag_last {tag : String} {tags : List String} (h : ∀ t ∈ tags, t < tag) :
    insertTag tag tags = tags ++ [tag] := by
  induction tags with
  | nil => rfl
  | cons t tags ih =>
    have before := h t List.mem_cons_self
    have after : ¬ tag < t := fun lt => String.lt_irrefl _ (String.lt_trans lt before)
    rw [insertTag, if_neg after, if_neg (String.ne_of_lt before),
      ih fun s mem => h s (List.mem_cons_of_mem _ mem)]
    rfl

theorem insertAll_tags {tags : List String} : ∀ set : TagSet,
    (set.tags ++ tags).Pairwise (· < ·) → (set.insertAll tags).tags = set.tags ++ tags := by
  induction tags with
  | nil => exact fun set _ => (List.append_nil _).symm
  | cons tag tags ih =>
    intro set ascending
    have last : (set.insert tag).tags = set.tags ++ [tag] :=
      insertTag_last fun t mem =>
        (List.pairwise_append.mp ascending).2.2 t mem tag List.mem_cons_self
    rw [List.append_cons] at ascending ⊢
    rw [← last] at ascending ⊢
    exact ih (set.insert tag) ascending

/-- **A set of tags is read back** from the list of its tags. -/
theorem ofJson?_toJson (set : TagSet) : ofJson? set.toJson = some set := by
  have list := list?_texts .json set.tags
  have whole : ofList set.tags = set := TagSet.ext (insertAll_tags empty set.ascending)
  rw [ofJson?, toJson, list, Option.map_some, whole]

end TagSet

namespace Decision

/-- The members of a decision's form. -/
def schema : Schema where
  slots :=
    [{ name := "should_handoff", default := some (.bool true) },
      { name := "confidence", default := some (.ofFloat 1.0) },
      { name := "priority", default := some .null, varies := Priority.Spelling },
      { name := "reason", default := some .null },
      { name := "trigger_type", default := some .null },
      { name := "trigger_results", default := some (.object []) },
      { name := "assignment", default := some .null },
      { name := "tags", default := some (.list []) },
      { name := "route_to_fallback", default := some (.bool false) },
      { name := "fallback_reason", default := some .null }]
  apart := by decide

/-- **A decision is read back.** -/
theorem ofJson?_toJson (d : Decision) : ofJson? d.toJson = some d := by
  have text (s : Option String) : nullable? text? (orNull .text s) = some s :=
    nullable?_orNull (fun _ _ => rfl) fun _ _ => nofun
  have priority : nullable? (Priority.ofJson? .json) (orNull Priority.toJson d.priority) =
      some d.priority :=
    nullable?_orNull (fun p _ => Priority.ofJson?_toJson .json p) fun _ _ => nofun
  have assignment : nullable? Assignment.ofJson? (orNull Assignment.toJson d.assignment) =
      some d.assignment :=
    nullable?_orNull (fun a _ => Assignment.ofJson?_toJson a) fun _ _ => nofun
  simp only [ofJson?, toJson, members?, Option.bind_eq_bind, Option.bind_some,
    Option.bind_eq_some_iff]
  exact ⟨_, rfl, _, rfl, _, priority, _, text _, _, text _, _, Attributes.ofJson?_toJson _,
    _, assignment, _, TagSet.ofJson?_toJson _, _, rfl, _, text _, rfl⟩

theorem respects : Respects (Record schema) ofJson? :=
  .record <| .bind (.orDefault ["should_handoff"] rfl (.inr rfl) respects_eq) fun _ =>
    .bind (.orDefault ["confidence"] rfl (.inr rfl) respects_eq) fun _ =>
    .bind (.orDefault ["priority"] rfl (.inr rfl) (Priority.respects_nullable .json)) fun _ =>
    .bind (.orDefault ["reason"] rfl (.inr rfl) respects_eq) fun _ =>
    .bind (.orDefault ["trigger_type"] rfl (.inr rfl) respects_eq) fun _ =>
    .bind (.orDefault ["trigger_results"] rfl (.inr rfl) respects_eq) fun _ =>
    .bind (.orDefault ["assignment"] rfl (.inr rfl) respects_eq) fun _ =>
    .bind (.orDefault ["tags"] rfl (.inr rfl) respects_eq) fun _ =>
    .bind (.orDefault ["route_to_fallback"] rfl (.inr rfl) respects_eq) fun _ =>
    .bind (.orDefault ["fallback_reason"] rfl (.inr rfl) respects_eq) fun _ => .const _

end Decision

end Escalation
