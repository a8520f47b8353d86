import Escalation.Outcome

/-!
# What an outcome tells comes from its rules

However thorough a walk is, it names one of its rules as the match, the actions are those of a rule,
and every trace and every error is one of a rule (`RuleSet.walkRules_told`). So nothing is told of a
rule that is not walked over, and what all rules have, or all their conditions (`Rule.mem_traces`),
shows in the outcome.
-/

namespace Escalation

variable {scope : Scope} {thoroughness : Thoroughness}

/-- Every trace of a rule is one of its conditions, at a place among them. -/
theorem Rule.mem_traces {t : ConditionTrace} (conditions : List Condition) : ∀ index,
    t ∈ tracesWith Condition.PatternKey.compile? thoroughness scope index conditions →
      ∃ c ∈ conditions,
        ∃ place < index + conditions.length, t = c.trace place (c.evaluate scope) := by
  induction conditions with
  | nil => exact fun _ mem => nomatch mem
  | cons c cs ih =>
    intro index mem
    have place : index < index + (c :: cs).length := Nat.lt_add_of_pos_right (Nat.succ_pos _)
    unfold tracesWith at mem
    dsimp only at mem
    split at mem
    · exact ⟨c, List.mem_cons_self, index, place, List.mem_singleton.mp mem⟩
    · rcases List.mem_cons.mp mem with here | behind
      · exact ⟨c, List.mem_cons_self, index, place, here⟩
      · obtain ⟨d, own, place, below, told⟩ := ih (index + 1) behind
        refine ⟨d, List.mem_cons_of_mem _ own, place, ?_, told⟩
        rwa [List.length_cons, Nat.add_comm cs.length, ← Nat.add_assoc]

/-- **What an outcome tells comes from rules**, and it tells of no time. -/
structure Outcome.ToldBy (thoroughness : Thoroughness) (scope : Scope) (rules : List Rule)
    (o : Outcome) : Prop where
  matched : ∀ name ∈ o.matchedRule, ∃ r ∈ rules, name = r.name
  priority : ∀ priority ∈ o.matchedPriority, ∃ r ∈ rules, priority = r.priority
  actions : ∀ a ∈ o.actions, ∃ r ∈ rules, a ∈ r.actions
  traces : ∀ t ∈ o.traces, ∃ r ∈ rules, t = (r.run thoroughness scope).trace r
  errors : ∀ d ∈ o.errors, ∃ r ∈ rules, (r.run thoroughness scope).diagnostic = some d
  micros : o.micros = 0

namespace Outcome

/-- What tells of no rule is told by any. -/
theorem toldBy_none (version : UInt64) (rules : List Rule) :
    (none version).ToldBy thoroughness scope rules where
  matched := nofun
  priority := nofun
  actions := List.forall_mem_nil _
  traces := List.forall_mem_nil _
  errors := List.forall_mem_nil _
  micros := rfl

namespace ToldBy

variable {rules : List Rule} {rule : Rule} {o : Outcome}

/-- What rules tell is told by more rules. -/
theorem cons (h : o.ToldBy thoroughness scope rules) (rule : Rule) :
    o.ToldBy thoroughness scope (rule :: rules) := by
  have more {p : Rule → Prop} : (∃ r ∈ rules, p r) → ∃ r ∈ rule :: rules, p r :=
    fun ⟨r, own, told⟩ => ⟨r, List.mem_cons_of_mem _ own, told⟩
  exact
    { matched := fun name named => more (h.matched name named)
      priority := fun priority given => more (h.priority priority given)
      actions := fun a mem => more (h.actions a mem)
      traces := fun t mem => more (h.traces t mem)
      errors := fun d mem => more (h.errors d mem)
      micros := h.micros }

/-- The trace and the error of a rule are told by it. -/
theorem withTrace (h : o.ToldBy thoroughness scope rules) (own : rule ∈ rules) :
    (o.withTrace (rule.run thoroughness scope) rule).ToldBy thoroughness scope rules :=
  { h with
    traces := List.forall_mem_cons.mpr ⟨⟨rule, own, rfl⟩, h.traces⟩
    errors := fun d mem => (List.mem_append.mp mem).elim
      (fun told => ⟨rule, own, Option.mem_toList.mp told⟩) (h.errors d) }

/-- A match is told by its rule. -/
theorem withMatch (h : o.ToldBy thoroughness scope rules) (own : rule ∈ rules) :
    (o.withMatch rule).ToldBy thoroughness scope rules :=
  { h with
    matched := fun _ named => ⟨rule, own, (Option.some.inj named).symm⟩
    priority := fun _ given => ⟨rule, own, (Option.some.inj given).symm⟩
    actions := fun _ mem => ⟨rule, own, mem⟩ }

end ToldBy

end Outcome

/-- **What a walk tells comes from its rules.** -/
theorem RuleSet.walkRules_told (version : UInt64) (rules : List Rule) :
    (walkRules thoroughness scope version rules).ToldBy thoroughness scope rules := by
  induction rules with
  | nil => exact Outcome.toldBy_none version []
  | cons rule rules ih =>
    have own : rule ∈ rule :: rules := List.mem_cons_self
    have behind : Outcome.ToldBy thoroughness scope (rule :: rules)
        (if (rule.run thoroughness scope).matched && thoroughness = .fast then .none version
          else walkRules thoroughness scope version rules) := by
      split
      · exact Outcome.toldBy_none version _
      · exact ih.cons rule
    unfold walkRules
    dsimp only
    split
    · exact (behind.withTrace own).withMatch own
    · exact behind.withTrace own

end Escalation
