import Escalation.Outcome
import Escalation.Proofs.Value.Alike

/-!
# What rules read of a scope

A rule set reads a scope through the fields of its conditions and through the clock. This module
says what that is: `Scope.Agree` names the parts, and two scopes that agree on them give every rule
set the same outcome (`RuleSet.walk_congr`), on the fast path and on the exhaustive one, traces and
errors included.

Two parts are read on demand. The timestamps of the messages count only for a rule set of which a
condition resolves to that field (`RuleSet.readsTimestamps`), and the time of day only for one with
a condition on the clock (`RuleSet.hasTimeConditions`). Both flags are computed from the rules apart
from the evaluation, and the proofs are where the two meet: a field that resolves to the clock
belongs to a condition on the clock (`resolve_clock`), and an operator that reads the time passes
the pairing check on no other condition (`test_now`).

The identity of the conversation, the assignment, the tags and the fallback are in no part, so they
decide nothing (`RuleSet.walk_noninterference`).
-/

namespace Escalation

/-- **Two scopes agree** on all that a rule may read but the time of day; on the timestamps of the
messages, as the text that rules see, only where these are read. -/
structure Scope.Agree (timestamps : Bool) (a b : Scope) : Prop where
  speakers : a.context.messages.map (·.speaker) = b.context.messages.map (·.speaker)
  contents : a.context.messages.map (·.content) = b.context.messages.map (·.content)
  stamps : timestamps = true → a.context.messages.map (·.timestamp.renderOffset) =
    b.context.messages.map (·.timestamp.renderOffset)
  userAttributes : a.context.userAttributes.Alike b.context.userAttributes
  contextMetadata : a.context.metadata.Alike b.context.metadata
  entities : a.context.entities.Alike b.context.entities
  metadata : a.metadata.Alike b.metadata
  shouldHandoff : a.decision.shouldHandoff = b.decision.shouldHandoff
  confidence : a.decision.confidence.toBits = b.decision.confidence.toBits
  priority : a.decision.priority = b.decision.priority
  reason : a.decision.reason = b.decision.reason
  triggerType : a.decision.triggerType = b.decision.triggerType
  triggerResults : a.decision.triggerResults.Alike b.decision.triggerResults

theorem Scope.Agree.refl (timestamps : Bool) (s : Scope) : s.Agree timestamps s :=
  ⟨rfl, rfl, fun _ => rfl, .refl _, .refl _, .refl _, .refl _, rfl, rfl, rfl, rfl, rfl, .refl _⟩

/-- What no rule reads of a scope. -/
structure Scope.Rest where
  conversationId : String
  assignment : Option Assignment
  tags : TagSet
  routeToFallback : Bool
  fallbackReason : Option String

/-- A scope with other parts of those that no rule reads. -/
def Scope.withRest (s : Scope) (rest : Scope.Rest) : Scope :=
  { s with
    context := { s.context with conversationId := rest.conversationId }
    decision :=
      { s.decision with
        assignment := rest.assignment
        tags := rest.tags
        routeToFallback := rest.routeToFallback
        fallbackReason := rest.fallbackReason } }

theorem Scope.Agree.withRest_left {timestamps : Bool} {a b : Scope} (h : a.Agree timestamps b)
    (rest : Scope.Rest) : (a.withRest rest).Agree timestamps b :=
  ⟨h.speakers, h.contents, h.stamps, h.userAttributes, h.contextMetadata, h.entities, h.metadata,
    h.shouldHandoff, h.confidence, h.priority, h.reason, h.triggerType, h.triggerResults⟩

theorem Scope.Agree.of_withRest_left {timestamps : Bool} {a b : Scope} {rest : Scope.Rest}
    (h : (a.withRest rest).Agree timestamps b) : a.Agree timestamps b :=
  ⟨h.speakers, h.contents, h.stamps, h.userAttributes, h.contextMetadata, h.entities, h.metadata,
    h.shouldHandoff, h.confidence, h.priority, h.reason, h.triggerType, h.triggerResults⟩

/-! ## Fields -/

section Messages

variable {ms ns : List Message}

/-- What is read of the last message is read of the last item of a projection. -/
theorem map_getLast?_congr {α β : Type} {f : Message → α} (g : α → β)
    (h : ms.map f = ns.map f) :
    ms.getLast?.map (fun m => g (f m)) = ns.getLast?.map (fun m => g (f m)) := by
  have last : ms.getLast?.map f = ns.getLast?.map f := by
    rw [← List.getLast?_map, ← List.getLast?_map, h]
  have eq := congrArg (Option.map g) last
  rwa [Option.map_map, Option.map_map] at eq

theorem MessageField.lookup_congr {field : MessageField}
    (speakers : ms.map (·.speaker) = ns.map (·.speaker))
    (contents : ms.map (·.content) = ns.map (·.content))
    (stamps : field = .timestamp →
      ms.map (·.timestamp.renderOffset) = ns.map (·.timestamp.renderOffset)) :
    field.lookup ms = field.lookup ns := by
  have count : ms.length = ns.length := by simpa using congrArg List.length contents
  cases field with
  | content => exact map_getLast?_congr Value.text contents
  | speaker => exact map_getLast?_congr Value.text speakers
  | timestamp => exact map_getLast?_congr Value.text (stamps rfl)
  | length => exact map_getLast?_congr (fun s : String => Value.count s.length) contents
  | conversation =>
    have empty : ms.isEmpty = ns.isEmpty := by
      simpa only [List.isEmpty_map] using congrArg List.isEmpty contents
    simp only [MessageField.lookup, empty, contents]
  | messageCount => simp only [MessageField.lookup, count]

end Messages

variable {a b : Scope} {timestamps : Bool}

theorem TriggerField.lookup_congr (h : a.Agree timestamps b) (field : TriggerField) :
    field.lookup a.decision = field.lookup b.decision := by
  cases field with
  | shouldHandoff => simp only [TriggerField.lookup, h.shouldHandoff]
  | confidence => simp only [TriggerField.lookup, eq_of_toBits h.confidence]
  | priority => simp only [TriggerField.lookup, h.priority]
  | reason => simp only [TriggerField.lookup, h.reason]
  | triggerType => simp only [TriggerField.lookup, h.triggerType]
  | named name => simp only [TriggerField.lookup, Attributes.alike_iff.mp h.triggerResults]

/-- **A field has one value in scopes that agree**; the timestamp and the clock need that the
scopes agree on these too. -/
theorem Field.lookup_congr (h : a.Agree timestamps b) {field : Field}
    (stamp : field = .message .timestamp → timestamps = true)
    (clock : field = .clock → a.now = b.now) : field.lookup a = field.lookup b := by
  unfold Field.lookup
  cases field with
  | message field =>
    have eq : field.lookup a.context.messages = field.lookup b.context.messages :=
      MessageField.lookup_congr h.speakers h.contents fun eq =>
        h.stamps (stamp (congrArg Field.message eq))
    simp only [eq]
  | user name => simp only [Attributes.alike_iff.mp h.userAttributes]
  | context name => simp only [Attributes.alike_iff.mp h.contextMetadata]
  | entity name => simp only [Attributes.alike_iff.mp h.entities]
  | metadata name => simp only [Attributes.alike_iff.mp h.metadata]
  | trigger field => simp only [TriggerField.lookup_congr h field]
  | clock => simp only [clock rfl]

/-! ## Conditions -/

namespace Condition

/-- Only a condition on the clock resolves to the clock. -/
theorem resolve_clock {c : Condition} (h : c.resolve = .ok .clock) : c.kind = .timeBased := by
  unfold resolve Field.resolve at h
  split at h
  · assumption
  · dsimp only at h
    split at h
    · cases h
    · cases hk : c.kind <;> simp only [hk] at h
      case messageContent => split at h <;> cases h
      case timeBased => rfl
      all_goals cases h

/-- Off the clock the pairing check refuses the operators on the time of day. -/
theorem untimed_of_pairing {c : Condition} (offClock : c.kind ≠ .timeBased)
    (pairing : c.checkPairing = .ok ()) : c.operator.isTime = false := by
  unfold checkPairing at pairing
  rw [if_neg offClock] at pairing
  split at pairing
  · cases pairing
  · next untimed => exact Bool.eq_false_iff.mpr untimed

/-- A condition that is not on the clock never looks at the time of day: the pairing check refuses
the operators that do. -/
theorem test_now {c : Condition} (h : c.kind ≠ .timeBased) (compile : PatternKey → Option Pattern)
    (field : Field) (actual : Option Value) (now other : TimeOfDay) :
    c.test compile field actual now = c.test compile field actual other := by
  unfold test
  cases pairing : c.checkPairing with
  | error cause => rfl
  | ok u =>
    dsimp only [bind, Except.bind]
    split
    · rfl
    · rfl
    · simp only [untimed_of_pairing h pairing, Bool.false_eq_true, if_false]

/-- **A condition reads the same in scopes that agree**, value and verdict. -/
theorem evaluate_congr (h : a.Agree timestamps b) {c : Condition}
    (stamp : c.resolve = .ok (.message .timestamp) → timestamps = true)
    (clock : c.kind = .timeBased → a.now = b.now) : c.evaluate a = c.evaluate b := by
  unfold evaluate evaluateWith
  cases resolved : c.resolve with
  | error cause => rfl
  | ok field =>
    have actual : field.lookup a = field.lookup b :=
      Field.lookup_congr h (fun eq => stamp (eq ▸ resolved)) fun eq =>
        clock (resolve_clock (eq ▸ resolved))
    have verdict : c.test PatternKey.compile? field (field.lookup b) a.now =
        c.test PatternKey.compile? field (field.lookup b) b.now := by
      by_cases timed : c.kind = .timeBased
      · rw [clock timed]
      · exact test_now timed _ _ _ _ _
    simp only [actual, verdict]

end Condition

/-! ## Rules and rule sets -/

namespace Rule

/-- A rule reads timestamps if one of its conditions resolves to them. -/
theorem readsTimestamps_of_mem {rule : Rule} {c : Condition} (mem : c ∈ rule.conditions)
    (h : c.resolve = .ok (.message .timestamp)) : rule.readsTimestamps = true :=
  List.any_eq_true.mpr ⟨c, mem, by simp only [h]⟩

theorem hasTimeConditions_of_mem {rule : Rule} {c : Condition} (mem : c ∈ rule.conditions)
    (h : c.kind = .timeBased) : rule.hasTimeConditions = true :=
  List.any_eq_true.mpr ⟨c, mem, beq_iff_eq.mpr h⟩

theorem tracesWith_congr {compile : Condition.PatternKey → Option Pattern}
    {conditions : List Condition}
    (h : ∀ c ∈ conditions, c.evaluateWith compile a = c.evaluateWith compile b)
    (thoroughness : Thoroughness) : ∀ index, tracesWith compile thoroughness a index conditions =
      tracesWith compile thoroughness b index conditions := by
  induction conditions with
  | nil => exact fun _ => rfl
  | cons c cs ih =>
    intro index
    simp only [tracesWith, h c List.mem_cons_self,
      ih (fun d hd => h d (List.mem_cons_of_mem _ hd)) (index + 1)]

/-- A rule runs alike in scopes that agree on what it reads. -/
theorem run_congr (h : a.Agree timestamps b) {rule : Rule}
    (stamp : rule.readsTimestamps = true → timestamps = true)
    (clock : rule.hasTimeConditions = true → a.now = b.now) (thoroughness : Thoroughness) :
    rule.run thoroughness a = rule.run thoroughness b := by
  have readings : ∀ c ∈ rule.conditions, c.evaluate a = c.evaluate b := fun c mem =>
    Condition.evaluate_congr h (fun hc => stamp (readsTimestamps_of_mem mem hc)) fun hc =>
      clock (hasTimeConditions_of_mem mem hc)
  simp only [run, runWith, tracesWith_congr readings thoroughness 0]

end Rule

namespace RuleSet

theorem walkRules_congr {rules : List Rule} {thoroughness : Thoroughness} (version : UInt64)
    (h : ∀ rule ∈ rules, rule.run thoroughness a = rule.run thoroughness b) :
    walkRules thoroughness a version rules = walkRules thoroughness b version rules := by
  induction rules with
  | nil => rfl
  | cons rule rules ih =>
    simp only [walkRules, h rule List.mem_cons_self,
      ih fun r hr => h r (List.mem_cons_of_mem _ hr)]

/-- **Scopes that agree on what a rule set reads have one outcome.** The two flags of the set bound
what its rules read, also those of its rules that are not enabled. -/
theorem walk_congr (set : RuleSet) (h : a.Agree set.readsTimestamps b)
    (clock : set.hasTimeConditions = true → a.now = b.now) (thoroughness : Thoroughness) :
    set.walk thoroughness a = set.walk thoroughness b := by
  refine walkRules_congr set.version fun rule mem => ?_
  have mem := (List.mem_filter.mp mem).1
  exact Rule.run_congr h (fun hr => List.any_eq_true.mpr ⟨rule, mem, hr⟩)
    (fun hr => clock (List.any_eq_true.mpr ⟨rule, mem, hr⟩)) thoroughness

/-- **Nothing else decides.** Scopes that agree on what a rule set reads have one outcome, and the
parts of a scope that no rule reads leave the outcome as it is whatever they are. -/
theorem walk_noninterference (set : RuleSet) (h : a.Agree set.readsTimestamps b)
    (clock : set.hasTimeConditions = true → a.now = b.now) (thoroughness : Thoroughness) :
    set.walk thoroughness a = set.walk thoroughness b ∧
      ∀ rest : Scope.Rest, set.walk thoroughness (a.withRest rest) = set.walk thoroughness b := by
  refine ⟨set.walk_congr h clock thoroughness, fun rest => ?_⟩
  exact set.walk_congr (h.withRest_left rest) clock thoroughness

end RuleSet

section Witness

/-- A rule on an attribute of the user, which reads neither the clock nor a timestamp. -/
def tierRule : Rule where
  name := "vip"
  priority := 200
  conditions := [.on .userAttribute "tier" .equals (.text "vip")]
  actions := [.assignQueue "senior"]

/-- The rule set of that one rule. -/
def tierRules : RuleSet := ⟨[⟨tierRule, 0⟩], 1⟩

/-- A conversation of one message with a user of that tier. -/
def tierScope (conversationId tier : String) (timestamp : Time.Timestamp) (now : TimeOfDay) :
    Scope where
  context :=
    { conversationId
      messages := [⟨"help", "user", timestamp⟩]
      userAttributes := .ofList [("tier", .text tier)] }
  decision := {}
  metadata := .empty
  now := now

theorem tierRules_noninterference :
    (tierScope "a" "vip" ⟨0, 0⟩ ⟨540, by decide⟩).Agree tierRules.readsTimestamps
        (tierScope "b" "vip" ⟨86400, 0⟩ ⟨1200, by decide⟩) ∧
      tierRules.walk .fast (tierScope "a" "vip" ⟨0, 0⟩ ⟨540, by decide⟩) =
        tierRules.walk .fast (tierScope "b" "vip" ⟨86400, 0⟩ ⟨1200, by decide⟩) ∧
      (tierRules.walk .fast (tierScope "b" "vip" ⟨86400, 0⟩ ⟨1200, by decide⟩)).matchedRule =
        some "vip" := by
  have agree : (tierScope "a" "vip" ⟨0, 0⟩ ⟨540, by decide⟩).Agree tierRules.readsTimestamps
      (tierScope "b" "vip" ⟨86400, 0⟩ ⟨1200, by decide⟩) :=
    { speakers := rfl
      contents := rfl
      stamps := fun reads => absurd reads (by decide)
      userAttributes := .refl _
      contextMetadata := .refl _
      entities := .refl _
      metadata := .refl _
      shouldHandoff := rfl
      confidence := rfl
      priority := rfl
      reason := rfl
      triggerType := rfl
      triggerResults := .refl _ }
  refine ⟨agree, ?_, by decide⟩
  exact (tierRules.walk_noninterference agree (fun timed => absurd timed (by decide)) .fast).1

end Witness

end Escalation
