import Escalation.Proofs.Engine.Regular

/-!
# Documents are decoded

What is written of a rule book, a decision, a context or an outcome is decoded as what it was
written of, and so is everything that says the same: what has members left out that hold their
defaults, at any set of places and at every depth, members under their other names, and priorities
in capitals (`documents_decode`). No shape of a condition, an action or a value is an exception.

That is so of documents as trees, in which every number stands as it is, and of their texts as far
as these are legible. A text that is nested too deep is refused, and a few doubles are read as their
neighbours, so what was written is not decoded from every text (`deepBook_unread`). The text of an
instant is another matter: the messages of a context are taken to be read back from it.
-/

namespace Escalation

open Form
open Registry (Change)

/-- **Documents are decoded as what they were written of, however they are written**, and so are
their texts if they are legible. For outcomes this is so of whatever an engine answers, from the
cache or not, after any run from an empty cache and rules that are regular, and with whatever times a
host has measured. -/
theorem documents_decode :
    (∀ b : RuleBook, b.Regular →
      Decodes (Record RuleBook.schema) RuleBook.toJson (RuleBook.ofJson? .json) b) ∧
    (∀ d : Decision, Decodes (Record Decision.schema) Decision.toJson Decision.ofJson? d) ∧
    (∀ (c : Context) (arrival : Time.Timestamp),
      (∀ m ∈ c.messages, Time.Timestamp.read? m.timestamp.render = some m.timestamp) →
      Decodes (Record Context.schema) Context.toJson (Context.ofJson? arrival) c) ∧
    ∀ (e : Engine) (settings : Option CacheSettings) (before : List Change)
      (steps : List Engine.Step), e.cache = settings.map .ofSettings →
      e.registry = Registry.empty.afterAll before →
      (∀ c ∈ before ++ Engine.changes steps, ∀ r ∈ c.rules, r.Regular) →
      ∀ (now : Nat) (event : Event) (o : Outcome),
        ((e.run steps).evaluate now event).1 = .ok o ∨ o = (e.run steps).evaluateAll event →
        Decodes (Record Outcome.schema) Outcome.toJson Outcome.ofJson? o ∧
          ∀ (micros : UInt64) (times : RuleTrace → UInt64),
            Decodes (Record Outcome.schema) Outcome.toJson Outcome.ofJson?
              (o.timed micros times) := by
  refine ⟨fun b regular => ?_, fun d => ?_, fun c arrival instants => ?_, ?_⟩
  · exact RuleBook.respects.decodes (b.ofJson?_toJson regular)
  · exact Decision.respects.decodes d.ofJson?_toJson
  · exact (Context.respects arrival).decodes (c.ofJson?_toJson arrival instants)
  · intro e settings before steps empty registry regular now event o answer
    have fits : o.Regular := by
      rcases answer with answer | rfl
      · exact Engine.evaluate_regular registry regular empty answer
      · exact Engine.evaluateAll_regular registry regular event
    exact ⟨Outcome.respects.decodes (o.ofJson?_toJson fits), fun micros times =>
      Outcome.respects.decodes (Outcome.ofJson?_toJson _ (fits.timed micros times))⟩

section Illegible

/-- A book of one rule, which compares with that operand. -/
def operandBook (operand : Value) : RuleBook where
  rules := [{ name := "tier", conditions := [.on .userAttribute "tier" .equals operand] }]

theorem operandBook_regular {operand : Value} (canonical : operand.Canonical) :
    (operandBook operand).Regular where
  rules := by
    rintro _ (_ | ⟨_, ⟨⟩⟩)
    exact
      { priority := by simp [IsInt32]
        places := by simp
        operands := by
          rintro _ (_ | ⟨_, ⟨⟩⟩)
          exact canonical
        actions := nofun }
  ttl := by simp [operandBook]
  maxEntries := by simp [operandBook]

/-- An empty list inside so many others. -/
def nestedList : Nat → Value
  | 0 => .list []
  | depth + 1 => .list [nestedList depth]

theorem nestedList_canonical : (depth : Nat) → (nestedList depth).Canonical
  | 0 => trivial
  | depth + 1 => ⟨nestedList_canonical depth, trivial⟩

/-- The doubles that the conditions of a book compare with, bit by bit. -/
def RuleBook.operandBits (b : RuleBook) : List UInt64 :=
  b.rules.flatMap fun r => r.conditions.filterMap fun c =>
    match c.operand with
    | .number x => some x.toBits
    | _ => none

/-- **Not every text is decoded as what it was written of.** One book is nested more than 127 deep and
is refused; another holds a double that is read as its neighbour. -/
theorem deepBook_unread :
    ((operandBook (nestedList 130)).Regular ∧
      (Json.read? (operandBook (nestedList 130)).toJson.render).bind (RuleBook.ofJson? .json) = none) ∧
    ((operandBook (.number 0.9452706955539223)).Regular ∧
      (Json.read? (operandBook (.number 0.9452706955539223)).toJson.render).bind
        (RuleBook.ofJson? .json) ≠ some (operandBook (.number 0.9452706955539223))) := by
  refine ⟨⟨operandBook_regular (nestedList_canonical 130), ?_⟩, operandBook_regular trivial, ?_⟩
  · rw [Json.read?_render_eq]
    exact Option.isNone_iff_eq_none.mp (by decide +kernel)
  · rw [Json.read?_render_eq]
    intro same
    have bits := congrArg (Option.map RuleBook.operandBits) same
    revert bits
    decide +kernel

end Illegible

section Witness

/-- A book of a rule that makes some conversations urgent. -/
def urgentBook : RuleBook where
  rules :=
    [{ name := "urgent"
       conditions := [.on .userAttribute "tier" .inList (.list [.text "gold", .text "vip"])]
       actions :=
        [.setPriority .urgent, .setCustomField "sla" (.object [("answer", .bool true)])] }]
  cacheTtlSeconds := 60

/-- The same book without the members that hold their defaults, with other names and capitals. -/
def urgentDocument : Json :=
  .object
    [("rules",
        .list
          [.object
            [("name", .text "urgent"),
              ("conditions",
                .list
                  [.object
                    [("kind", .text "user_attribute"), ("field", .text "tier"),
                      ("operator", .text "IN_LIST"),
                      ("value", .list [.text "gold", .text "vip"])]]),
              ("actions",
                .list
                  [.object [("type", .text "set_priority"), ("priority", .text "URGENT")],
                    .object
                      [("type", .text "set_custom_field"), ("key", .text "sla"),
                        ("value", .object [("answer", .bool true)])]])]]),
      ("cache_ttl", .ofNat 60)]

theorem urgentBook_regular : urgentBook.Regular where
  rules := by
    rintro _ (_ | ⟨_, ⟨⟩⟩)
    exact
      { priority := by unfold IsInt32; decide
        places := by decide
        operands := by
          rintro _ (_ | ⟨_, ⟨⟩⟩)
          exact ⟨trivial, trivial, trivial⟩
        actions := by
          rintro _ (_ | ⟨_, _ | ⟨_, ⟨⟩⟩⟩)
          · trivial
          · exact ⟨List.pairwise_singleton _ _, trivial, trivial⟩ }
  ttl := by decide
  maxEntries := by decide

theorem urgentDocument_varies : Record RuleBook.schema urgentBook.toJson urgentDocument := by
  have condition : Record Condition.schema
      (Condition.on .userAttribute "tier" .inList (.list [.text "gold", .text "vip"])).toJson
      (.object
        [("kind", .text "user_attribute"), ("field", .text "tier"), ("operator", .text "IN_LIST"),
          ("value", .list [.text "gold", .text "vip"])]) :=
    .edit <| .rewrite ["type", "kind"] rfl (.head _) (.tail _ (.head _)) rfl <|
      .keep _ <| .keep _ <| .keep _ <| .leave ["negate"] rfl (.head _) rfl <|
      .leave ["case_sensitive"] rfl (.head _) rfl .nil
  have priority : Record Action.schema (Action.setPriority .urgent).toJson
      (.object [("type", .text "set_priority"), ("priority", .text "URGENT")]) :=
    .edit <| .keep _ <|
      .rewrite ["priority"] rfl (.head _) (.head _) (Priority.Spelling.capitals .urgent) .nil
  have field : Record Action.schema
      (Action.setCustomField "sla" (.object [("answer", .bool true)])).toJson
      (.object
        [("type", .text "set_custom_field"), ("key", .text "sla"),
          ("value", .object [("answer", .bool true)])]) :=
    .edit <| .keep _ <| .keep _ <| .keep _ .nil
  refine .edit <| .rewrite ["rules"] rfl (.head _) (.head _) (Items.edit (.cons (.edit ?_) .nil)) <|
    .leave ["enable_caching"] rfl (.head _) rfl <|
    .rewrite ["cache_ttl_secs", "cache_ttl"] rfl (.head _) (.tail _ (.head _)) rfl <|
    .leave ["cache_max_entries"] rfl (.head _) rfl .nil
  exact .keep _ <| .leave ["priority"] rfl (.head _) rfl <| .leave ["enabled"] rfl (.head _) rfl <|
    .rewrite ["conditions"] rfl (.head _) (.head _) (Items.edit (.cons condition .nil)) <|
    .rewrite ["actions"] rfl (.head _) (.head _) (Items.edit (.cons priority (.cons field .nil))) <|
    .leave ["metadata"] rfl (.head _) rfl .nil

theorem urgentDocument_legible : urgentDocument.Legible Json.deepest := by
  have ttl : (Json.Number.integer 60).ReadBack := Json.readBack_integer (by decide) (by decide)
  simp [urgentDocument, Json.deepest, Json.ofNat, ttl]

/-- A conversation in which an agent has spoken. -/
def briefContext : Context where
  conversationId := "a"
  messages := [⟨"hello", "agent", ⟨0, 0⟩⟩]

/-- The same conversation with the speaker under the other name. -/
def briefDocument : Json :=
  .object
    [("conversation_id", .text "a"),
      ("messages",
        .list
          [.object
            [("content", .text "hello"), ("role", .text "agent"),
              ("timestamp", .text (Time.Timestamp.render ⟨0, 0⟩))]])]

theorem briefDocument_varies : Record Context.schema briefContext.toJson briefDocument := by
  refine .edit <| .keep _ <|
    .rewrite ["messages"] rfl (.head _) (.head _) (Items.edit (.cons (.edit ?_) .nil)) <|
    .leave ["user_attributes"] rfl (.head _) rfl <| .leave ["entities"] rfl (.head _) rfl <|
    .leave ["metadata"] rfl (.head _) rfl .nil
  exact .keep _ <| .rewrite ["speaker", "role"] rfl (.head _) (.tail _ (.head _)) rfl <|
    .keep _ .nil

theorem emptyDocument_varies : Record Decision.schema (Decision.toJson {}) (.object []) :=
  .edit <| .leave ["should_handoff"] rfl (.head _) rfl <| .leave ["confidence"] rfl (.head _) rfl <|
    .leave ["priority"] rfl (.head _) rfl <| .leave ["reason"] rfl (.head _) rfl <|
    .leave ["trigger_type"] rfl (.head _) rfl <| .leave ["trigger_results"] rfl (.head _) rfl <|
    .leave ["assignment"] rfl (.head _) rfl <| .leave ["tags"] rfl (.head _) rfl <|
    .leave ["route_to_fallback"] rfl (.head _) rfl <|
    .leave ["fallback_reason"] rfl (.head _) rfl .nil

theorem tierRule_regular : tierRule.Regular where
  priority := by unfold IsInt32; decide
  places := by decide
  operands := by
    rintro _ (_ | ⟨_, ⟨⟩⟩)
    trivial
  actions := by
    rintro _ (_ | ⟨_, ⟨⟩⟩)
    trivial

theorem urgentDocument_decodes :
    RuleBook.ofJson? .json urgentDocument = some urgentBook ∧
    (Json.read? urgentDocument.render).bind (RuleBook.ofJson? .json) = some urgentBook ∧
    Decision.ofJson? (.object []) = some {} ∧
    (∀ arrival, Context.ofJson? arrival briefDocument = some briefContext) ∧
    ∃ o, (Engine.tierEngine.evaluate 0 (Engine.tierEvent "a" "vip")).1 = .ok o ∧
      Outcome.ofJson? o.toJson = some o := by
  obtain ⟨books, decisions, contexts, outcomes⟩ := documents_decode
  have instants : ∀ m ∈ briefContext.messages,
      Time.Timestamp.read? m.timestamp.render = some m.timestamp := by
    rintro _ (_ | ⟨_, ⟨⟩⟩)
    decide
  have regular : ∀ c ∈ [Change.add tierRule] ++ Engine.changes [], ∀ r ∈ c.rules, r.Regular := by
    rintro _ (_ | ⟨_, ⟨⟩⟩) _ (_ | ⟨_, ⟨⟩⟩)
    exact tierRule_regular
  have miss : Engine.tierEngine.Misses 0 (Engine.tierEvent "a" "vip") := by
    rintro cache ⟨⟩
    rfl
  have answer := (Engine.evaluate_miss miss).1 Engine.tierEngine_stores
  have decoded := outcomes Engine.tierEngine (some {}) [.add tierRule] [] rfl rfl regular 0 _ _
    (.inl answer)
  exact ⟨(books _ urgentBook_regular).varied _ urgentDocument_varies,
    (books _ urgentBook_regular).text _ (.inr urgentDocument_varies) urgentDocument_legible,
    (decisions {}).varied _ emptyDocument_varies,
    fun arrival => (contexts _ arrival instants).varied _ briefDocument_varies,
    _, answer, decoded.1.written⟩

end Witness

end Escalation
