import Escalation.Proofs.Registry.Changes
import Escalation.Proofs.Registry.Order
import Mathlib.Algebra.GroupWithZero.Nat

/-!
# The order of registration

What a registry holds is a plain list of rules in the order in which they were registered: `add`
puts a rule at the end, `update` puts a rule in the place of another, `remove` takes one out and
`replaceAll` starts afresh (`Change.record`). The list has no numbers, no versions and no order of
evaluation. `registered` is the list after a run of changes from nothing.

A registry registers a list when its rules, in the order of their numbers, are that list and are
arranged for evaluation (`Registers`). Every change keeps this (`Registers.after`), so along every
run the registry registers what the list says (`afterAll_registers`), and the rules that are
evaluated are the enabled rules of the list, sorted stably by descending priority
(`Registers.enabled`).
-/

namespace Escalation.Registry

/-! ## The plain list -/

/-- The rules after a change that is accepted, in the order of registration. -/
def Change.record (rules : List Rule) : Change → List Rule
  | .add rule => rules ++ [rule]
  | .update name rule => rules.map fun r => if r.name == name then rule else r
  | .remove name => rules.filter (·.name != name)
  | .replaceAll new => new

/-- The rules after a change; a change that is not accepted leaves them alone. -/
def register (rules : List Rule) (c : Change) : List Rule :=
  if c.accepted rules then c.record rules else rules

/-- The rules after a run of changes from an empty registry, in the order of registration. -/
def registered (changes : List Change) : List Rule :=
  changes.foldl register []

theorem named_perm {rules others : List Rule} (p : rules.Perm others) (name : String) :
    named name rules = named name others :=
  p.any_eq

/-- Whether a change is accepted does not depend on the order of the rules. -/
theorem accepted_perm {rules others : List Rule} (p : rules.Perm others) (c : Change) :
    c.accepted rules = c.accepted others := by
  cases c <;> simp only [Change.accepted, named_perm p]

/-! ## Numbers -/

/-- **The rules of a registry with their numbers, in the order of registration.** -/
structure Numbering (r : Registry) (entries : List RegisteredRule) : Prop where
  active : r.active.entries = arrange entries
  ascending : entries.Pairwise (·.sequence < ·.sequence)
  below : ∀ e ∈ entries, e.sequence < r.nextSequence

/-- A registry registers a list of rules. -/
def Registers (r : Registry) (rules : List Rule) : Prop :=
  ∃ entries, r.Numbering entries ∧ entries.map (·.rule) = rules

theorem distinct_of_ascending {entries : List RegisteredRule}
    (h : entries.Pairwise (·.sequence < ·.sequence)) : DistinctNumbers entries :=
  List.pairwise_map.mpr (h.imp Nat.ne_of_lt)

theorem Numbering.perm {r : Registry} {entries : List RegisteredRule} (h : r.Numbering entries) :
    r.active.entries.Perm entries :=
  h.active ▸ arrange_perm entries

theorem substitute_sequence (name : String) (rule : Rule) (entries : List RegisteredRule) :
    (substitute name rule entries).map (·.sequence) = entries.map (·.sequence) := by
  simp only [substitute, List.map_map]
  refine List.map_congr_left fun e _ => ?_
  simp only [Function.comp]
  split <;> rfl

theorem substitute_rule (name : String) (rule : Rule) (entries : List RegisteredRule) :
    (substitute name rule entries).map (·.rule) =
      (entries.map (·.rule)).map fun r => if r.name == name then rule else r := by
  simp only [substitute, List.map_map]
  refine List.map_congr_left fun e _ => ?_
  simp only [Function.comp]
  split <;> rfl

theorem number_rule (rules : List Rule) : ∀ start, (number start rules).map (·.rule) = rules := by
  induction rules with
  | nil => exact fun _ => rfl
  | cons rule rules ih => exact fun start => congrArg (rule :: ·) (ih (start + 1))

theorem number_bounds (rules : List Rule) : ∀ start, ∀ e ∈ number start rules,
    start ≤ e.sequence ∧ e.sequence < start + rules.length := by
  induction rules with
  | nil => exact fun _ _ he => nomatch he
  | cons rule rules ih =>
    intro start e he
    rw [List.length_cons]
    rcases List.mem_cons.mp he with rfl | he
    · exact ⟨Nat.le_refl _, by simp only; omega⟩
    · have bounds := ih (start + 1) e he
      omega

theorem number_ascending (rules : List Rule) : ∀ start,
    (number start rules).Pairwise (·.sequence < ·.sequence) := by
  induction rules with
  | nil => exact fun _ => List.Pairwise.nil
  | cons rule rules ih =>
    exact fun start => List.pairwise_cons.mpr
      ⟨fun e he => (number_bounds rules (start + 1) e he).1, ih (start + 1)⟩

/-! ## What changes keep -/

section Keep

variable {r : Registry} {entries : List RegisteredRule}

theorem Numbering.add (h : r.Numbering entries) (rule : Rule) :
    (Change.perform r (.add rule)).Numbering (entries ++ [⟨rule, r.nextSequence⟩]) := by
  have ascending : List.Pairwise (·.sequence < ·.sequence)
      (entries ++ [(⟨rule, r.nextSequence⟩ : RegisteredRule)]) := by
    refine List.pairwise_append.mpr ⟨h.ascending, List.pairwise_singleton _ _, fun e he d hd => ?_⟩
    rw [List.mem_singleton.mp hd]
    exact h.below e he
  refine ⟨?_, ascending, fun e he => ?_⟩
  · exact arrange_congr (distinct_of_ascending ascending) (h.perm.append_right _)
  · change e.sequence < r.nextSequence + 1
    rcases List.mem_append.mp he with he | he
    · exact Nat.lt_succ_of_lt (h.below e he)
    · rw [List.mem_singleton.mp he]
      exact Nat.lt_succ_self _

theorem Numbering.update (h : r.Numbering entries) (name : String) (rule : Rule) :
    (Change.perform r (.update name rule)).Numbering (substitute name rule entries) := by
  have ascending : (substitute name rule entries).Pairwise (·.sequence < ·.sequence) := by
    refine List.pairwise_map.mp (?_ : ((substitute name rule entries).map _).Pairwise (· < ·))
    rw [substitute_sequence]
    exact List.pairwise_map.mpr h.ascending
  refine ⟨?_, ascending, fun e he => ?_⟩
  · exact arrange_congr (distinct_of_ascending ascending) (h.perm.map _)
  · have mem := List.mem_map_of_mem (f := (·.sequence)) he
    rw [substitute_sequence] at mem
    obtain ⟨d, hd, eq⟩ := List.mem_map.mp mem
    exact eq ▸ h.below d hd

theorem Numbering.remove (h : r.Numbering entries) (name : String) :
    (Change.perform r (.remove name)).Numbering (entries.filter (·.rule.name != name)) := by
  have ascending := h.ascending.filter (·.rule.name != name)
  have below : ∀ e ∈ entries.filter (·.rule.name != name), e.sequence < r.nextSequence :=
    fun e he => h.below e (List.mem_of_mem_filter he)
  change (Registry.remove r name).Numbering _
  unfold Registry.remove
  split
  · exact ⟨arrange_congr (distinct_of_ascending ascending) (h.perm.filter _), ascending, below⟩
  · next absent =>
    refine ⟨?_, ascending, below⟩
    have all : entries.filter (·.rule.name != name) = entries := by
      refine List.filter_eq_self.mpr fun e he => ?_
      refine bne_iff_ne.mpr fun eq => absent (List.any_eq_true.mpr ⟨e.rule, ?_, beq_iff_eq.mpr eq⟩)
      exact List.mem_map_of_mem (h.perm.mem_iff.mpr he)
    rw [all, h.active]

theorem Numbering.replaceAll (r : Registry) (rules : List Rule) :
    (Change.perform r (.replaceAll rules)).Numbering (number r.nextSequence rules) :=
  ⟨rfl, number_ascending rules _, fun e he => (number_bounds rules _ e he).2⟩

/-- What an accepted change makes registers what the plain list records. -/
theorem Registers.perform {rules : List Rule} (h : r.Registers rules) (c : Change) :
    (c.perform r).Registers (c.record rules) := by
  obtain ⟨entries, numbering, rfl⟩ := h
  cases c with
  | add rule => exact ⟨_, numbering.add rule, List.map_append⟩
  | update name rule => exact ⟨_, numbering.update name rule, substitute_rule name rule entries⟩
  | remove name =>
    refine ⟨_, numbering.remove name, ?_⟩
    rw [Change.record, List.filter_map]
    rfl
  | replaceAll new => exact ⟨_, Numbering.replaceAll r new, number_rule new _⟩

/-- The rules in the order of evaluation are those that are registered. -/
theorem Registers.perm {rules : List Rule} (h : r.Registers rules) : r.active.rules.Perm rules := by
  obtain ⟨entries, numbering, rfl⟩ := h
  exact numbering.perm.map _

/-- **A change keeps what is registered in step with the plain list**, whether it succeeds or
not. -/
theorem Registers.after {rules : List Rule} (h : r.Registers rules) (c : Change) :
    (r.after c).Registers (register rules c) := by
  rw [after_eq, register, accepted_perm h.perm]
  split
  · exact h.perform c
  · exact h

end Keep

theorem registers_empty : Registers .empty [] :=
  ⟨[], ⟨rfl, List.Pairwise.nil, fun _ he => nomatch he⟩, rfl⟩

/-- Along every run of changes, what is registered is what the plain list says. -/
theorem afterAll_registers (changes : List Change) :
    (empty.afterAll changes).Registers (registered changes) := by
  have run : ∀ (changes : List Change) {r : Registry} {rules : List Rule}, r.Registers rules →
      (r.afterAll changes).Registers (changes.foldl register rules) := by
    intro changes
    induction changes with
    | nil => exact fun h => h
    | cons c changes ih => exact fun h => ih (h.after c)
  exact run changes registers_empty

/-! ## How far the numbers go -/

/-- How many rules a change registers if it succeeds. -/
def Change.registrations : Change → Nat
  | .add _ => 1
  | .update _ _ | .remove _ => 0
  | .replaceAll rules => rules.length

theorem nextSequence_after_le (r : Registry) (c : Change) :
    (r.after c).nextSequence ≤ r.nextSequence + c.registrations := by
  rw [after_eq]
  split
  · cases c with
    | add rule => exact Nat.le_refl _
    | update name rule => exact Nat.le_refl _
    | remove name =>
      change (Registry.remove r name).nextSequence ≤ _
      unfold Registry.remove
      split <;> exact Nat.le_refl _
    | replaceAll rules => exact Nat.le_refl _
  · exact Nat.le_add_right _ _

theorem nextSequence_afterAll_le (changes : List Change) : ∀ r : Registry,
    (r.afterAll changes).nextSequence ≤ r.nextSequence + (changes.map (·.registrations)).sum := by
  induction changes with
  | nil => exact fun r => Nat.le_refl _
  | cons c changes ih =>
    intro r
    have first := nextSequence_after_le r c
    have rest := ih (r.after c)
    rw [List.map_cons, List.sum_cons]
    change ((r.after c).afterAll changes).nextSequence ≤ _
    omega

/-- **Numbers of registration fit in words** as long as fewer rules than that are registered. -/
theorem sequences_fit {changes : List Change}
    (few : (changes.map (·.registrations)).sum < wordSize) :
    ∀ e ∈ (empty.afterAll changes).active.entries, e.sequence < wordSize := by
  intro e mem
  obtain ⟨entries, numbering, -⟩ := afterAll_registers changes
  have below := numbering.below e (numbering.perm.mem_iff.mp mem)
  have next := nextSequence_afterAll_le changes empty
  rw [show empty.nextSequence = 0 from rfl, Nat.zero_add] at next
  exact Nat.lt_of_lt_of_le below (Nat.le_trans next (Nat.le_of_lt few))

/-! ## The order of evaluation -/

/-- The enabled rules by descending priority, those of equal priority in the order of the list. -/
def evaluationOrder (rules : List Rule) : List Rule :=
  (rules.filter (·.enabled)).mergeSort byPriority

/-- **The enabled rules in the order of evaluation** are those of the plain list, sorted stably by
descending priority. -/
theorem Registers.enabled {r : Registry} {rules : List Rule} (h : r.Registers rules) :
    r.active.rules.filter (·.enabled) = evaluationOrder rules := by
  obtain ⟨entries, numbering, rfl⟩ := h
  have distinct := distinct_of_ascending numbering.ascending
  rw [evaluationOrder, RuleSet.rules, numbering.active, List.filter_map, List.filter_map,
    filter_arrange distinct, rules_arrange (numbering.ascending.filter _)]

end Escalation.Registry
