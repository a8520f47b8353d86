import Escalation.Proofs.Cache.Encoding
import Escalation.Proofs.Condition.Reads

/-!
# What a fingerprint is made of

`Fingerprint.Input` is what goes into a fingerprint: the version of the rules, the scope, and the
two parts that are written on demand. Two inputs are the same (`Input.Same`) when they agree on the
version, on which parts are written and on all that is written of the scope; that is what a rule set
of these demands reads (`Scope.Agree`).

Same inputs are written as the same bytes (`Input.Same.bytes`), and bytes tell inputs apart
(`Input.same_of_bytes`): each part is cancelled in turn, with what the encoding lemmas say of where
it ends. The second law is about inputs of which every length is below `2 ^ 64`; the first needs no
bound. Nothing here is about the digest of the bytes.
-/

namespace Escalation

/-- Every length that is written of a message fits. -/
structure Message.Sized (timestamps : Bool) (m : Message) : Prop where
  speaker : Fits m.speaker.utf8ByteSize
  content : Fits m.content.utf8ByteSize
  stamp : timestamps = true → Fits m.timestamp.renderOffset.utf8ByteSize

/-- Every length that is written of a decision fits. -/
structure Decision.Sized (d : Decision) : Prop where
  reason : ∀ s ∈ d.reason, Fits s.utf8ByteSize
  triggerType : ∀ s ∈ d.triggerType, Fits s.utf8ByteSize
  triggerResults : d.triggerResults.Sized

/-- Every length that is written of a scope fits. -/
structure Scope.Sized (timestamps : Bool) (s : Scope) : Prop where
  count : Fits s.context.messages.length
  messages : ∀ m ∈ s.context.messages, m.Sized timestamps
  userAttributes : s.context.userAttributes.Sized
  contextMetadata : s.context.metadata.Sized
  entities : s.context.entities.Sized
  metadata : s.metadata.Sized
  decision : s.decision.Sized

namespace Fingerprint

variable {s t : Bytes} {timestamps : Bool}

/-! ## Messages -/

/-- What is written of a message can be cancelled. -/
theorem message_append_inj {m n : Message} (hm : m.Sized timestamps) (hn : n.Sized timestamps)
    (h : message timestamps m ++ s = message timestamps n ++ t) :
    (m.speaker = n.speaker ∧ m.content = n.content ∧
      (timestamps = true → m.timestamp.renderOffset = n.timestamp.renderOffset)) ∧ s = t := by
  simp only [message, List.append_assoc] at h
  obtain ⟨speaker, afterSpeaker⟩ := text_append_inj hm.speaker hn.speaker h
  obtain ⟨content, afterContent⟩ := text_append_inj hm.content hn.content afterSpeaker
  cases timestamps with
  | false => exact ⟨⟨speaker, content, fun reads => nomatch reads⟩, afterContent⟩
  | true =>
    obtain ⟨stamp, hst⟩ := text_append_inj (hm.stamp rfl) (hn.stamp rfl) afterContent
    exact ⟨⟨speaker, content, fun _ => stamp⟩, hst⟩

/-- As many messages one after the other. -/
theorem messages_append_inj : (ms ns : List Message) → ms.length = ns.length →
    (∀ m ∈ ms, m.Sized timestamps) → (∀ n ∈ ns, n.Sized timestamps) →
    messages timestamps ms ++ s = messages timestamps ns ++ t →
    (ms.map (·.speaker) = ns.map (·.speaker) ∧ ms.map (·.content) = ns.map (·.content) ∧
      (timestamps = true →
        ms.map (·.timestamp.renderOffset) = ns.map (·.timestamp.renderOffset))) ∧ s = t
  | [], [], _, _, _, h => ⟨⟨rfl, rfl, fun _ => rfl⟩, h⟩
  | m :: ms, n :: ns, size, hm, hn, h => by
    simp only [messages, List.append_assoc] at h
    obtain ⟨⟨speaker, content, stamp⟩, rest⟩ :=
      message_append_inj (hm m List.mem_cons_self) (hn n List.mem_cons_self) h
    obtain ⟨⟨speakers, contents, stamps⟩, hst⟩ :=
      messages_append_inj ms ns (Nat.succ.inj size)
        (fun k hk => hm k (List.mem_cons_of_mem _ hk))
        (fun k hk => hn k (List.mem_cons_of_mem _ hk)) rest
    refine ⟨⟨?_, ?_, fun reads => ?_⟩, hst⟩
    · rw [List.map_cons, List.map_cons, speaker, speakers]
    · rw [List.map_cons, List.map_cons, content, contents]
    · rw [List.map_cons, List.map_cons, stamp reads, stamps reads]

/-- Messages that read alike are written alike. -/
theorem messages_congr {ms : List Message} : ∀ {ns : List Message},
    ms.map (·.speaker) = ns.map (·.speaker) → ms.map (·.content) = ns.map (·.content) →
    (timestamps = true →
      ms.map (·.timestamp.renderOffset) = ns.map (·.timestamp.renderOffset)) →
    messages timestamps ms = messages timestamps ns := by
  induction ms with
  | nil =>
    intro ns speakers _ _
    rw [List.map_eq_nil_iff.mp speakers.symm]
  | cons m ms ih =>
    intro ns speakers contents stamps
    cases ns with
    | nil => cases speakers
    | cons n ns =>
      obtain ⟨speaker, speakers⟩ := List.cons.inj speakers
      obtain ⟨content, contents⟩ := List.cons.inj contents
      have rest := ih speakers contents fun reads => (List.cons.inj (stamps reads)).2
      cases timestamps with
      | false => simp [messages, message, speaker, content, rest]
      | true =>
        have stamp := (List.cons.inj (stamps rfl)).1
        simp only [messages, message, speaker, content, stamp, rest]

/-! ## Decisions and the time of day -/

theorem priority_name_inj {p q : Option Priority} (h : p.map Priority.name = q.map Priority.name) :
    p = q := by
  refine Option.map_injective (fun a b eq => ?_) h
  cases a <;> cases b <;> first | rfl | exact absurd eq (by decide)

theorem fits_priority_name (p : Option Priority) :
    ∀ s ∈ p.map Priority.name, Fits s.utf8ByteSize := by
  intro s hs
  obtain ⟨priority, -, rfl⟩ := Option.map_eq_some_iff.mp hs
  unfold Fits
  cases priority <;> decide

/-- What is written of a decision can be cancelled. -/
theorem decision_append_inj {d e : Decision} (hd : d.Sized) (he : e.Sized)
    (h : decision d ++ s = decision e ++ t) :
    (d.shouldHandoff = e.shouldHandoff ∧ d.confidence.toBits = e.confidence.toBits ∧
      d.priority = e.priority ∧ d.reason = e.reason ∧ d.triggerType = e.triggerType ∧
      d.triggerResults = e.triggerResults) ∧ s = t := by
  simp only [decision, List.append_assoc] at h
  obtain ⟨shouldHandoff, h⟩ := flag_append_inj h
  obtain ⟨confidence, h⟩ := word_append_inj h
  obtain ⟨priority, h⟩ := text?_append_inj (fits_priority_name _) (fits_priority_name _) h
  obtain ⟨reason, h⟩ := text?_append_inj hd.reason he.reason h
  obtain ⟨triggerType, h⟩ := text?_append_inj hd.triggerType he.triggerType h
  obtain ⟨triggerResults, hst⟩ := attributes_append_inj hd.triggerResults he.triggerResults h
  exact ⟨⟨shouldHandoff, confidence, priority_name_inj priority, reason, triggerType,
    triggerResults⟩, hst⟩

/-- The time of day ends the bytes, so its two forms are told apart by their lengths. -/
theorem bucket_inj {m n : Option TimeOfDay} (h : bucket m = bucket n) : m = n := by
  have size := congrArg List.length h
  have absent : (bucket none).length = 1 := raw_length "-"
  have present (t : TimeOfDay) : (bucket (some t)).length = 3 := by
    rw [bucket, List.length_append, raw_length]
    rfl
  cases m with
  | none =>
    cases n with
    | none => rfl
    | some u => rw [absent, present] at size; cases size
  | some t =>
    cases n with
    | none => rw [absent, present] at size; cases size
    | some u =>
      obtain ⟨minutes, lt⟩ := t
      obtain ⟨others, lt'⟩ := u
      have digits := List.append_cancel_left h
      simp only [List.cons.injEq, ← UInt8.toNat_inj, Nat.toUInt8_eq, UInt8.toNat_ofNat'] at digits
      have eq : minutes = others := by omega
      exact congrArg some (by cases eq; rfl)

/-! ## Inputs -/

/-- What goes into a fingerprint. -/
structure Input where
  version : UInt64
  scope : Scope
  /-- The time of day, where a rule reads it. -/
  minute : Option TimeOfDay
  /-- Whether a rule reads the timestamps of messages. -/
  timestamps : Bool

namespace Input

/-- The bytes that are digested. -/
def bytes (i : Input) : Bytes :=
  preimage i.scope i.version i.minute i.timestamps

/-- Every length that is written fits. -/
def Sized (i : Input) : Prop :=
  i.scope.Sized i.timestamps

/-- **Two inputs are the same**: as to the version, what is written on demand, and all that is
written of the scope. -/
structure Same (i j : Input) : Prop where
  version : i.version = j.version
  timestamps : i.timestamps = j.timestamps
  minute : i.minute = j.minute
  scope : i.scope.Agree i.timestamps j.scope

variable {i j : Input}

/-- **Same inputs are written as the same bytes**, whatever order their maps were filled in. -/
theorem Same.bytes (h : i.Same j) : i.bytes = j.bytes := by
  have count : i.scope.context.messages.length = j.scope.context.messages.length := by
    simpa only [List.length_map] using congrArg List.length h.scope.speakers
  have written := messages_congr h.scope.speakers h.scope.contents h.scope.stamps
  simp only [Input.bytes, preimage, decision, ← h.version, ← h.timestamps, ← h.minute, count,
    written, Attributes.alike_iff.mp h.scope.userAttributes,
    Attributes.alike_iff.mp h.scope.contextMetadata, Attributes.alike_iff.mp h.scope.entities,
    Attributes.alike_iff.mp h.scope.metadata, h.scope.shouldHandoff, h.scope.confidence,
    h.scope.priority, h.scope.reason, h.scope.triggerType,
    Attributes.alike_iff.mp h.scope.triggerResults]

/-- **Bytes tell inputs apart**: the parts are cancelled in the order in which they are written. -/
theorem same_of_bytes (hi : i.Sized) (hj : j.Sized) (h : i.bytes = j.bytes) : i.Same j := by
  obtain ⟨version, a, minute, timestamps⟩ := i
  obtain ⟨version', b, minute', timestamps'⟩ := j
  simp only [Input.bytes, preimage, List.append_assoc] at h
  obtain ⟨version, h⟩ := word_append_inj (List.append_cancel_left h)
  obtain ⟨demand, h⟩ := flag_append_inj (List.append_cancel_left h)
  subst demand
  obtain ⟨count, h⟩ := length_append_inj hi.count hj.count h
  obtain ⟨⟨speakers, contents, stamps⟩, h⟩ :=
    messages_append_inj _ _ count hi.messages hj.messages h
  obtain ⟨user, h⟩ :=
    attributes_append_inj hi.userAttributes hj.userAttributes (List.append_cancel_left h)
  obtain ⟨context, h⟩ :=
    attributes_append_inj hi.contextMetadata hj.contextMetadata (List.append_cancel_left h)
  obtain ⟨entities, h⟩ := attributes_append_inj hi.entities hj.entities (List.append_cancel_left h)
  obtain ⟨metadata, h⟩ := attributes_append_inj hi.metadata hj.metadata (List.append_cancel_left h)
  obtain ⟨⟨shouldHandoff, confidence, priority, reason, triggerType, results⟩, h⟩ :=
    decision_append_inj hi.decision hj.decision (List.append_cancel_left h)
  exact
    { version
      timestamps := rfl
      minute := bucket_inj h
      scope :=
        { speakers
          contents
          stamps
          userAttributes := Attributes.alike_iff.mpr user
          contextMetadata := Attributes.alike_iff.mpr context
          entities := Attributes.alike_iff.mpr entities
          metadata := Attributes.alike_iff.mpr metadata
          shouldHandoff
          confidence
          priority
          reason
          triggerType
          triggerResults := Attributes.alike_iff.mpr results } }

/-- **A fingerprint's bytes are exactly its input.** -/
theorem bytes_eq_iff (hi : i.Sized) (hj : j.Sized) : i.bytes = j.bytes ↔ i.Same j :=
  ⟨same_of_bytes hi hj, Same.bytes⟩

section Witness

/-- An input with one message and nothing else. -/
def ofMessage (speaker content : String) : Input where
  version := 1
  scope :=
    { context := { messages := [⟨content, speaker, ⟨0, 0⟩⟩] }
      decision := {}
      metadata := .empty
      now := default }
  minute := none
  timestamps := false

theorem sized_empty : Attributes.Sized .empty :=
  ⟨show 0 < 2 ^ 64 by decide, trivial⟩

theorem sized_ofMessage {speaker content : String} (hs : Fits speaker.utf8ByteSize)
    (hc : Fits content.utf8ByteSize) : (ofMessage speaker content).Sized where
  count := show 1 < 2 ^ 64 by decide
  messages := by
    intro m hm
    cases List.mem_singleton.mp hm
    exact ⟨hs, hc, fun reads => nomatch reads⟩
  userAttributes := sized_empty
  contextMetadata := sized_empty
  entities := sized_empty
  metadata := sized_empty
  decision := ⟨fun _ h => (nomatch h), fun _ h => (nomatch h), sized_empty⟩

/-- A letter that goes from the speaker to the content changes the bytes. -/
theorem ofMessage_shifted :
    (ofMessage "ab" "c").Sized ∧ (ofMessage "a" "bc").Sized ∧
      (ofMessage "ab" "c").bytes ≠ (ofMessage "a" "bc").bytes := by
  have first : (ofMessage "ab" "c").Sized :=
    sized_ofMessage (show 2 < 2 ^ 64 by decide) (show 1 < 2 ^ 64 by decide)
  have second : (ofMessage "a" "bc").Sized :=
    sized_ofMessage (show 1 < 2 ^ 64 by decide) (show 2 < 2 ^ 64 by decide)
  refine ⟨first, second, fun eq => ?_⟩
  have same := (bytes_eq_iff first second).mp eq
  exact absurd same.scope.speakers (by decide)

end Witness

end Input

end Fingerprint

end Escalation
