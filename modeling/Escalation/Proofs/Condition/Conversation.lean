import Escalation.Proofs.Condition.Subject
import Escalation.Proofs.Text.Lines
import Escalation.Proofs.Text.Search

/-!
# Searching a conversation

The conversation is the texts of all messages, one below the other, and the content is the text of the
last. Searching the one is searching the other in what the conversation was after each message
(`Scope.cuts`): what stands in the conversation stands in one message, and what stands in a message
stands in the conversation (`Subject.conversation_searched`).

It is so only for texts without a line feed, for one with a line feed may reach from a message into the
next. With or without regard to case makes no difference: a message is put in lower case as if it stood
alone, though the sigmas in it look around them (`foldText_conversation`).
-/

namespace Escalation

/-! ## The texts of a conversation -/

/-- The texts of messages, one below the other, are compared as each of them is, one below the other. -/
theorem foldText_conversation (caseSensitive : Bool) (texts : List String) :
    foldText caseSensitive ("\n".intercalate texts) =
      ['\n'].intercalate (texts.map (foldText caseSensitive)) := by
  have chars : ("\n".intercalate texts).toList = ['\n'].intercalate (texts.map String.toList) :=
    String.toList_intercalate
  cases caseSensitive with
  | true => exact chars
  | false =>
    simp only [foldText, chars, Text.Lowercase.lowercaseChars_intercalate, List.map_map,
      Function.comp_def, Bool.false_eq_true, if_false]
    rfl

theorem newline_mem_foldText {caseSensitive : Bool} {text : String} :
    '\n' ∈ foldText caseSensitive text ↔ '\n' ∈ text.toList := by
  cases caseSensitive with
  | true => rfl
  | false => exact Text.Lowercase.newline_mem_lowercaseChars

section Found

variable {caseSensitive : Bool} {texts lines : List String}

theorem occursIn_conversation {needle : String} (oneLine : '\n' ∉ needle.toList)
    (written : lines ≠ []) :
    Text.occursIn (foldText caseSensitive needle)
        (foldText caseSensitive ("\n".intercalate lines)) = true ↔
      ∃ line ∈ lines,
        Text.occursIn (foldText caseSensitive needle) (foldText caseSensitive line) = true := by
  have absent : '\n' ∉ foldText caseSensitive needle := mt newline_mem_foldText.mp oneLine
  have pieces : lines.map (foldText caseSensitive) ≠ [] := mt List.map_eq_nil_iff.mp written
  simp only [Text.occursIn_iff, foldText_conversation, Text.infix_intercalate absent pieces,
    List.mem_map, exists_exists_and_eq_and]

/-- Whether one of the texts stands in a text. -/
def finds (caseSensitive : Bool) (texts : List String) (text : String) : Bool :=
  texts.any fun t => Text.occursIn (foldText caseSensitive t) (foldText caseSensitive text)

/-- **What is found in a conversation is found in a message.** -/
theorem finds_conversation (oneLine : ∀ t ∈ texts, '\n' ∉ t.toList) (written : lines ≠ []) :
    finds caseSensitive texts ("\n".intercalate lines) = true ↔
      ∃ line ∈ lines, finds caseSensitive texts line = true := by
  simp only [finds, List.any_eq_true]
  constructor
  · rintro ⟨t, mem, here⟩
    obtain ⟨line, own, there⟩ := (occursIn_conversation (oneLine t mem) written).mp here
    exact ⟨line, own, t, mem, there⟩
  · rintro ⟨line, own, t, mem, there⟩
    exact ⟨t, mem, (occursIn_conversation (oneLine t mem) written).mpr ⟨line, own, there⟩⟩

end Found

/-! ## Conversations that go on -/

namespace Scope

variable {scope : Scope}

/-- The scope when a message had just been written, given how many there were before it. -/
def cutAfter (scope : Scope) (n : Nat) : Scope :=
  { scope with context := { scope.context with messages := scope.context.messages.take (n + 1) } }

/-- The scope after each of its messages. -/
def cuts (scope : Scope) : List Scope :=
  (List.range scope.context.messages.length).map scope.cutAfter

theorem lookup_conversation (written : scope.context.messages ≠ []) :
    (Field.message .conversation).lookup scope =
      some (.text ("\n".intercalate (scope.context.messages.map (·.content)))) := by
  have any : scope.context.messages.isEmpty = false := List.isEmpty_eq_false_iff.mpr written
  simp only [Field.lookup, MessageField.lookup, any, Bool.false_eq_true, if_false, Option.bind_some,
    Value.present?]

theorem lookup_content_cutAfter {n : Nat} (bound : n < scope.context.messages.length) :
    (Field.message .content).lookup (scope.cutAfter n) =
      some (.text scope.context.messages[n].content) := by
  have last : (scope.context.messages.take (n + 1)).getLast? = some scope.context.messages[n] := by
    rw [List.getLast?_take, if_neg (Nat.succ_ne_zero n), Nat.add_sub_cancel,
      List.getElem?_eq_getElem bound]
    rfl
  simp only [Field.lookup, MessageField.lookup, cutAfter, last, Option.map_some, Option.bind_some,
    Value.present?]

/-- What is read after each message is read of each message. -/
theorem map_cuts {α : Type} {f : Scope → α} {g : Message → α}
    (same : ∀ n, ∀ bound : n < scope.context.messages.length,
      f (scope.cutAfter n) = g scope.context.messages[n]) :
    scope.cuts.map f = scope.context.messages.map g := by
  rw [cuts, List.map_map]
  refine List.ext_getElem (by simp) fun n _ bound => ?_
  rw [List.length_map] at bound
  simp only [List.getElem_map, List.getElem_range, Function.comp]
  exact same n bound

end Scope

/-! ## Conditions -/

namespace Subject

open Condition

variable {s : Subject} {scope : Scope} {operand : Value} {field : Field} {texts : List String}
  {text whole last : String}

/-- A text that is searched has an answer. -/
theorem verdict_contains_text (resolved : Field.resolve s.kind s.field = .ok field)
    (found : field.lookup scope = some (.text text)) (offClock : s.kind ≠ .timeBased)
    (needles : needles? operand = some texts) :
    s.verdict scope .contains operand = .ok (finds s.caseSensitive texts text) := by
  have searches : Operator.contains ∈ [Operator.contains, .startsWith, .endsWith] := by decide
  rw [verdict_found resolved found offClock (checkShape_of_needles (.inl searches) needles) rfl rfl,
    testValue_searchFor searches, needles]
  rfl

/-- What the messages say, with or without regard to case. -/
def said (field : String) (caseSensitive : Bool) : Subject :=
  ⟨.messageContent, field, caseSensitive⟩

theorem verdict_cuts (caseSensitive : Bool)
    (latest : Field.resolve .messageContent last = .ok (.message .content))
    (needles : needles? operand = some texts) :
    (scope.cuts.map fun cut => (said last caseSensitive).verdict cut .contains operand) =
      scope.context.messages.map fun m => .ok (finds caseSensitive texts m.content) :=
  Scope.map_cuts fun _ bound => verdict_contains_text (s := said last caseSensitive) latest
    (Scope.lookup_content_cutAfter bound) nofun needles

theorem exists_cut_found (caseSensitive : Bool)
    (latest : Field.resolve .messageContent last = .ok (.message .content))
    (needles : needles? operand = some texts) :
    (∃ cut ∈ scope.cuts, (said last caseSensitive).verdict cut .contains operand = .ok true) ↔
      ∃ m ∈ scope.context.messages, finds caseSensitive texts m.content = true := by
  rw [← List.mem_map (f := fun cut => (said last caseSensitive).verdict cut .contains operand),
    verdict_cuts caseSensitive latest needles, List.mem_map]
  simp only [Except.ok.injEq]

/-- **Searching a conversation is searching its messages.** Both searches have an answer, and the
conversation has one of the texts in it exactly if the content has after some message. -/
theorem conversation_searched (written : scope.context.messages ≠ [])
    (joined : Field.resolve .messageContent whole = .ok (.message .conversation))
    (latest : Field.resolve .messageContent last = .ok (.message .content))
    (needles : needles? operand = some texts) (oneLine : ∀ t ∈ texts, '\n' ∉ t.toList)
    (caseSensitive : Bool) :
    (∃ holds, (said whole caseSensitive).verdict scope .contains operand = .ok holds) ∧
      (∀ cut ∈ scope.cuts,
        ∃ holds, (said last caseSensitive).verdict cut .contains operand = .ok holds) ∧
      ((said whole caseSensitive).verdict scope .contains operand = .ok true ↔
        ∃ cut ∈ scope.cuts,
          (said last caseSensitive).verdict cut .contains operand = .ok true) := by
  have conversation : (said whole caseSensitive).verdict scope .contains operand =
      .ok (finds caseSensitive texts
        ("\n".intercalate (scope.context.messages.map (·.content)))) :=
    verdict_contains_text joined (Scope.lookup_conversation written) nofun needles
  refine ⟨⟨_, conversation⟩, fun cut mem => ?_, ?_⟩
  · have among := List.mem_map_of_mem
      (f := fun cut => (said last caseSensitive).verdict cut .contains operand) mem
    rw [verdict_cuts caseSensitive latest needles] at among
    obtain ⟨m, -, eq⟩ := List.mem_map.mp among
    exact ⟨_, eq.symm⟩
  · have lines : scope.context.messages.map (·.content) ≠ [] := mt List.map_eq_nil_iff.mp written
    rw [conversation, exists_cut_found caseSensitive latest needles, Except.ok.injEq,
      finds_conversation oneLine lines]
    simp only [List.mem_map, exists_exists_and_eq_and]

section Witness

/-- A conversation of two messages, the first of which ends in a sigma. -/
def greekScope : Scope where
  context := { messages := [⟨"ΟΔΟΣ", "user", ⟨0, 0⟩⟩, ⟨"ΑΘΗΝΑ", "user", ⟨0, 0⟩⟩] }
  decision := {}
  metadata := .empty
  now := default

/-- The sigma ends its word although another message follows, and what would reach from one message
into the other is found in neither. -/
theorem greekScope_searched :
    (said "conversation" false).verdict greekScope .contains (.text "οδος") = .ok true ∧
      (said "conversation" false).verdict greekScope .contains (.text "ςα") ≠ .ok true := by
  have written : greekScope.context.messages ≠ [] := List.cons_ne_nil _ _
  have joined : Field.resolve .messageContent "conversation" = .ok (.message .conversation) := rfl
  have latest : Field.resolve .messageContent "content" = .ok (.message .content) := rfl
  have needles (text : String) : needles? (.text text) = some [text] := rfl
  refine ⟨?_, fun holds => ?_⟩
  · have searched := conversation_searched written joined latest (needles "οδος") (by decide) false
    refine searched.2.2.mpr ((exists_cut_found false latest (needles _)).mpr
      ⟨_, List.mem_cons_self, ?_⟩)
    decide +kernel
  · have searched := conversation_searched written joined latest (needles "ςα") (by decide) false
    obtain ⟨m, own, found⟩ :=
      (exists_cut_found false latest (needles _)).mp (searched.2.2.mp holds)
    have absent : ∀ m ∈ greekScope.context.messages, finds false ["ςα"] m.content = false := by
      decide +kernel
    exact Bool.false_ne_true ((absent m own).symm.trans found)

end Witness

end Subject

end Escalation
