import Escalation.Outcome
import Escalation.Proofs.Form.Ordered
import Escalation.Proofs.Rule.Told
import Escalation.Proofs.Value.Same

/-!
# Outcomes that are the same

Two outcomes are compared by all that they tell but the times and the mark of being kept
(`Outcome.same_bare`). The comparison is symmetric and transitive, and an outcome is the same as
itself exactly if all numbers that it tells of stand in order (`Outcome.sameness`): those of the
operands, of what the conditions saw, and of what the actions store.

They do in the outcome of a walk if they do in the rules and in the event (`RuleSet.ordered_walk`),
since every trace is one of a rule and the actions are those of a rule.
-/

namespace Escalation

/-! ## Sameness of records -/

theorem Action.sameness : Sameness same Ordered where
  symm {a b} h := by
    cases a <;> cases b <;> first | exact BEq.symm h | cases h | skip
    rw [same, Bool.and_eq_true] at h ⊢
    exact ⟨BEq.symm h.1, Value.sameness.symm h.2⟩
  trans {a b c} h h' := by
    cases a <;> cases b <;> first | cases h | skip
    all_goals cases c <;> first | exact BEq.trans h h' | cases h' | skip
    rw [same, Bool.and_eq_true] at h h' ⊢
    exact ⟨BEq.trans h.1 h'.1, Value.sameness.trans h.2 h'.2⟩
  self_iff {a} := by
    cases a with
    | setCustomField key value =>
      rw [same, beq_self_eq_true, Bool.true_and]
      exact Value.sameness.self_iff
    | _ => exact iff_of_true (beq_self_eq_true _) trivial

/-- The numbers that a trace tells of stand in order. -/
structure ConditionTrace.Ordered (t : ConditionTrace) : Prop where
  expected : t.expected.Ordered
  actual : ∀ v ∈ t.actual, v.Ordered

theorem ConditionTrace.sameness : Sameness same Ordered := by
  have fields := Sameness.beq.on index |>.both (.on .beq expression) |>.both (.on .beq kind)
    |>.both (.on .beq operator) |>.both (Value.sameness.on expected)
    |>.both (Value.sameness_option.on actual) |>.both (.on .beq negated) |>.both (.on .beq result)
    |>.both (.on .beq error)
  refine Sameness.congr fields fun t => ?_
  simp only [true_and, and_true]
  exact ⟨fun h => ⟨h.1, h.2⟩, fun h => ⟨h.expected, h.actual⟩⟩

namespace RuleTrace

/-- The numbers that the trace of a rule tells of stand in order. -/
def Ordered (t : RuleTrace) : Prop :=
  ∀ c ∈ t.conditions, c.Ordered

theorem sameness : Sameness same Ordered := by
  have fields := Sameness.beq.on ruleName |>.both (.on .beq priority) |>.both (.on .beq matched)
    |>.both (ConditionTrace.sameness.all.on conditions) |>.both (.on .beq error)
  refine Sameness.congr fields fun t => ?_
  simp only [true_and, and_true]
  rfl

/-- A trace without its time. -/
def bare (t : RuleTrace) : RuleTrace :=
  { t with micros := 0 }

end RuleTrace

namespace Outcome

/-- **The numbers that an outcome tells of stand in order.** -/
structure Ordered (o : Outcome) : Prop where
  actions : ∀ a ∈ o.actions, a.Ordered
  traces : ∀ t ∈ o.traces, t.Ordered

/-- **Outcomes are compared symmetrically and transitively**, and the ordered ones are those that are
the same as themselves. -/
theorem sameness : Sameness same Ordered := by
  have fields := Sameness.beq.on matchedRule |>.both (.on .beq matchedPriority)
    |>.both (Action.sameness.all.on actions) |>.both (.on .beq errors) |>.both (.on .beq version)
    |>.both (RuleTrace.sameness.all.on traces)
  refine Sameness.congr fields fun o => ?_
  simp only [true_and, and_true]
  exact ⟨fun h => ⟨h.1, h.2⟩, fun h => ⟨h.actions, h.traces⟩⟩

/-- An outcome without the times and the mark of being kept. -/
def bare (o : Outcome) : Outcome :=
  { o with
    traces := o.traces.map RuleTrace.bare
    cacheHit := false
    micros := 0 }

theorem same_bare (a b : Outcome) : a.bare.same b.bare = a.same b := by
  have traces : ∀ ts us : List RuleTrace, RuleTrace.sameAll RuleTrace.same
      (ts.map RuleTrace.bare) (us.map RuleTrace.bare) = RuleTrace.sameAll RuleTrace.same ts us := by
    intro ts
    induction ts with
    | nil => exact fun us => by cases us <;> rfl
    | cons t ts ih =>
      intro us
      cases us with
      | nil => rfl
      | cons u us => exact congrArg (t.same u && ·) (ih us)
  exact congrArg (_ && ·) (traces a.traces b.traces)

/-- **A copy is the same exactly if the outcome is ordered**, whatever times and mark it has. -/
theorem same_copy_iff {o copy : Outcome} (differs : copy.bare = o.bare) :
    o.same copy = true ↔ o.Ordered := by
  rw [← same_bare, differs, same_bare, sameness.self_iff]

end Outcome

/-! ## Ordered walks -/

section Walk

variable {thoroughness : Thoroughness}

theorem Condition.ordered_trace {event : Event} (h : event.Ordered) (now : TimeOfDay)
    {c : Condition} (operand : c.operand.Ordered) (place : Nat) :
    (c.trace place (c.evaluate (event.scope now))).Ordered where
  expected := operand
  actual _ saw :=
    have ⟨_, reached⟩ := exists_lookup saw
    Field.ordered_lookup h reached

/-- **The outcome of a walk is ordered** if the rules and the event are. -/
theorem RuleSet.ordered_walk {set : RuleSet} {event : Event} (h : event.Ordered) (now : TimeOfDay)
    (rules : ∀ r ∈ set.rules, r.Ordered) : (set.walk thoroughness (event.scope now)).Ordered := by
  have told : Outcome.ToldBy thoroughness (event.scope now) (set.rules.filter (·.enabled))
      (set.walk thoroughness (event.scope now)) := walkRules_told set.version _
  constructor
  · intro a mem
    obtain ⟨r, own, mem⟩ := told.actions a mem
    exact (rules r (List.mem_filter.mp own).1).actions a mem
  · intro t mem c tells
    obtain ⟨r, own, rfl⟩ := told.traces t mem
    obtain ⟨condition, asked, place, -, rfl⟩ := Rule.mem_traces r.conditions 0 tells
    have operands := (rules r (List.mem_filter.mp own).1).operands
    exact Condition.ordered_trace h now (operands condition asked) place

end Walk

end Escalation
