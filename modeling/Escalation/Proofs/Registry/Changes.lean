import Escalation.Registry
import Mathlib.Algebra.Group.Nat.Defs
import Mathlib.Data.List.Basic

/-!
# Changes of a registry

A registry changes by adding, updating and removing a rule and by replacing all rules. `apply` is
one such call, `after` the registry it leaves, and `afterAll` the registry after a run of them; a
call that fails leaves the registry as it was.

`after_eq` says all that a call can do: whether it succeeds is decided by the names and the validity
of the rules (`Change.accepted`), and what it makes is `Change.perform`. The facts about runs follow
from it. Among them is that the version identifies the rules: along a run of fewer than `2 ^ 64`
changes, a registry at the version of an earlier one is the earlier one (`afterAll_eq_of_version`).
-/

namespace Escalation

/-- Whether a rule can be registered. -/
def Rule.isValid (rule : Rule) : Bool :=
  rule.validate.isOk

namespace Registry

/-- A change that is asked of a registry. -/
inductive Change where
  | add (rule : Rule)
  | update (name : String) (rule : Rule)
  | remove (name : String)
  | replaceAll (rules : List Rule)

/-- The registry that a change makes, if it succeeds. -/
def apply (r : Registry) : Change → Except EngineFault Registry
  | .add rule => r.add rule
  | .update name rule => r.update name rule
  | .remove name => .ok (r.remove name)
  | .replaceAll rules => r.replaceAll rules

/-- The registry after a change, which is the same if the change fails. -/
def after (r : Registry) (c : Change) : Registry :=
  match r.apply c with
  | .ok next => next
  | .error _ => r

/-- The registry after a list of changes, one after the other. -/
def afterAll (r : Registry) (changes : List Change) : Registry :=
  changes.foldl after r

/-! ## What one change does -/

/-- Whether one of the rules has that name. -/
def named (name : String) (rules : List Rule) : Bool :=
  rules.any (·.name == name)

theorem named_rules (name : String) (set : RuleSet) : named name set.rules = set.contains name :=
  rfl

namespace Change

/-- Whether a change succeeds where these rules are registered. -/
def accepted (rules : List Rule) : Change → Bool
  | .add rule => rule.isValid && !named rule.name rules
  | .update name rule =>
    rule.isValid && named name rules && (rule.name == name || !named rule.name rules)
  | .remove _ => true
  | .replaceAll new => new.all (·.isValid) && decide (new.map (·.name)).Nodup

/-- The registry that a change makes if it succeeds. -/
def perform (r : Registry) : Change → Registry
  | .add rule =>
    { r.publish (r.active.entries ++ [⟨rule, r.nextSequence⟩]) with
      nextSequence := r.nextSequence + 1 }
  | .update name rule => r.publish (substitute name rule r.active.entries)
  | .remove name => r.remove name
  | .replaceAll rules =>
    { r.publish (number r.nextSequence rules) with
      nextSequence := r.nextSequence + rules.length }

end Change

theorem checkRule_ok {rule : Rule} (valid : rule.isValid = true) : checkRule rule = .ok () := by
  unfold Rule.isValid at valid
  unfold checkRule
  cases h : rule.validate with
  | ok u => rfl
  | error cause => rw [h] at valid; cases valid

theorem checkRule_error {rule : Rule} (invalid : rule.isValid = false) :
    ∃ cause, checkRule rule = .error cause := by
  unfold Rule.isValid at invalid
  unfold checkRule
  cases h : rule.validate with
  | ok u => rw [h] at invalid; cases invalid
  | error cause => exact ⟨_, rfl⟩

/-- A list of rules is accepted if each is valid and no name occurs twice or among those seen. -/
theorem checkAll_ok_iff (rules : List Rule) : ∀ seen, checkAll seen rules = .ok () ↔
    (∀ r ∈ rules, r.isValid = true) ∧ (rules.map (·.name)).Nodup ∧ ∀ r ∈ rules, r.name ∉ seen := by
  induction rules with
  | nil => intro seen; simp [checkAll]
  | cons rule rules ih =>
    intro seen
    simp only [checkAll, List.forall_mem_cons, List.map_cons, List.nodup_cons]
    cases valid : rule.isValid with
    | false =>
      obtain ⟨cause, check⟩ := checkRule_error valid
      simp [check, bind, Except.bind]
    | true =>
      rw [checkRule_ok valid]
      by_cases known : rule.name ∈ seen
      · simp [bind, Except.bind, known]
      · simp only [bind, Except.bind, List.contains_iff_mem, known, if_false, ih, List.mem_cons,
          not_or, List.mem_map]
        constructor
        · rintro ⟨all, nodup, fresh⟩
          exact ⟨⟨trivial, all⟩, ⟨fun ⟨r, hr, eq⟩ => (fresh r hr).1 eq, nodup⟩, not_false,
            fun r hr => (fresh r hr).2⟩
        · rintro ⟨⟨-, all⟩, ⟨other, nodup⟩, -, fresh⟩
          exact ⟨all, nodup, fun r hr => ⟨fun eq => other ⟨r, hr, eq⟩, fresh r hr⟩⟩

/-- **An accepted change succeeds**, and makes what `Change.perform` says. -/
theorem apply_of_accepted {r : Registry} {c : Change} (h : c.accepted r.active.rules = true) :
    r.apply c = .ok (c.perform r) := by
  cases c with
  | add rule =>
    simp only [Change.accepted, named_rules, Bool.and_eq_true, Bool.not_eq_true'] at h
    obtain ⟨valid, free⟩ := h
    simp only [apply, add, checkRule_ok valid, free, bind, Except.bind, Bool.false_eq_true,
      if_false]
    rfl
  | update name rule =>
    simp only [Change.accepted, named_rules, Bool.and_eq_true, Bool.or_eq_true, beq_iff_eq,
      Bool.not_eq_true'] at h
    obtain ⟨⟨valid, present⟩, free⟩ := h
    have free : (rule.name != name && r.active.contains rule.name) = false := by
      rcases free with same | free
      · simp [same]
      · exact Bool.and_eq_false_imp.mpr fun _ => free
    simp only [apply, update, checkRule_ok valid, present, free, bind, Except.bind, Bool.not_true,
      Bool.false_eq_true, if_false]
    rfl
  | remove name => rfl
  | replaceAll rules =>
    simp only [Change.accepted, Bool.and_eq_true, List.all_eq_true, decide_eq_true_eq] at h
    have check : checkAll [] rules = .ok () :=
      (checkAll_ok_iff rules []).mpr ⟨h.1, h.2, fun _ _ => List.not_mem_nil⟩
    simp only [apply, replaceAll, check, bind, Except.bind]
    rfl

/-- **A change that is not accepted fails.** -/
theorem apply_of_refused {r : Registry} {c : Change} (h : c.accepted r.active.rules = false) :
    ∃ cause, r.apply c = .error cause := by
  cases c with
  | add rule =>
    cases valid : rule.isValid with
    | false =>
      obtain ⟨cause, check⟩ := checkRule_error valid
      exact ⟨cause, by simp only [apply, add, check, bind, Except.bind]⟩
    | true =>
      have taken : r.active.contains rule.name = true := by
        simpa only [Change.accepted, named_rules, valid, Bool.true_and, Bool.not_eq_false'] using h
      exact ⟨.duplicateRule rule.name, by
        simp only [apply, add, checkRule_ok valid, taken, bind, Except.bind, if_true]⟩
  | update name rule =>
    cases valid : rule.isValid with
    | false =>
      obtain ⟨cause, check⟩ := checkRule_error valid
      exact ⟨cause, by simp only [apply, update, check, bind, Except.bind]⟩
    | true =>
      cases present : r.active.contains name with
      | false =>
        exact ⟨.ruleNotFound name, by
          simp only [apply, update, checkRule_ok valid, present, bind, Except.bind, Bool.not_false,
            if_true]⟩
      | true =>
        have both : (rule.name == name || !r.active.contains rule.name) = false := by
          simpa only [Change.accepted, named_rules, valid, present, Bool.true_and] using h
        have taken : (rule.name != name && r.active.contains rule.name) = true := by
          simpa only [Bool.or_eq_false_iff, Bool.not_eq_false', bne, Bool.and_eq_true,
            Bool.not_eq_true'] using both
        exact ⟨.duplicateRule rule.name, by
          simp only [apply, update, checkRule_ok valid, present, taken, bind, Except.bind,
            Bool.not_true, Bool.false_eq_true, if_false, if_true]⟩
  | remove name => cases h
  | replaceAll rules =>
    cases check : checkAll [] rules with
    | error cause => exact ⟨cause, by simp only [apply, replaceAll, check, bind, Except.bind]⟩
    | ok u =>
      obtain ⟨valid, nodup, -⟩ := (checkAll_ok_iff rules []).mp check
      have accepted : Change.accepted r.active.rules (.replaceAll rules) = true := by
        simp only [Change.accepted, Bool.and_eq_true, List.all_eq_true, decide_eq_true_eq]
        exact ⟨valid, nodup⟩
      rw [accepted] at h
      cases h

/-- What a change leaves. -/
theorem after_eq (r : Registry) (c : Change) :
    r.after c = if c.accepted r.active.rules then c.perform r else r := by
  unfold after
  cases h : c.accepted r.active.rules with
  | true => simp only [apply_of_accepted h, if_true]
  | false =>
    obtain ⟨cause, failed⟩ := apply_of_refused h
    simp only [failed, Bool.false_eq_true, if_false]

/-! ## Versions -/

/-- A change leaves the registry as it is or raises the version by one. -/
theorem after_version (r : Registry) (c : Change) :
    r.after c = r ∨ (r.after c).version = r.version + 1 := by
  rw [after_eq]
  split
  · cases c with
    | add rule => exact .inr rfl
    | update name rule => exact .inr rfl
    | replaceAll rules => exact .inr rfl
    | remove name =>
      change r.remove name = r ∨ _
      unfold remove
      split
      · next present => exact .inr (by rw [Change.perform, remove, if_pos present]; rfl)
      · exact .inl rfl
  · exact .inl rfl

/-- A run of changes raises the version at most by one for each of them, and leaves the registry as
it is if it raises it by none. -/
theorem afterAll_version (changes : List Change) : ∀ r : Registry,
    ∃ n, n ≤ changes.length ∧ (r.afterAll changes).version = r.version + UInt64.ofNat n ∧
      (n = 0 → r.afterAll changes = r) := by
  induction changes with
  | nil => exact fun r => ⟨0, Nat.le_refl _, (UInt64.add_zero _).symm, fun _ => rfl⟩
  | cons c changes ih =>
    intro r
    obtain ⟨n, le, version, same⟩ := ih (r.after c)
    rcases after_version r c with eq | raised
    · refine ⟨n, Nat.le_succ_of_le le, ?_, fun none => ?_⟩
      · rw [eq] at version
        exact (congrArg (fun s => (afterAll s changes).version) eq).trans version
      · exact (same none).trans eq
    · refine ⟨n + 1, Nat.succ_le_succ le, ?_, fun none => nomatch none⟩
      refine version.trans ?_
      rw [raised, UInt64.add_assoc, UInt64.add_comm 1, UInt64.ofNat_add]
      rfl

/-- **The version identifies the rules.** A registry that has the version it had before fewer than
`2 ^ 64` changes is the one it was then. -/
theorem afterAll_eq_of_version {r : Registry} {changes : List Change}
    (few : changes.length < 2 ^ 64) (h : (r.afterAll changes).version = r.version) :
    r.afterAll changes = r := by
  obtain ⟨n, le, version, same⟩ := afterAll_version changes r
  refine same ?_
  rw [version, UInt64.add_eq_left] at h
  have wrapped := congrArg UInt64.toNat h
  rw [UInt64.toNat_ofNat'] at wrapped
  exact (Nat.mod_eq_of_lt (Nat.lt_of_le_of_lt le few)).symm.trans wrapped

end Registry

end Escalation
