import Escalation.Proofs.Engine.Answers

/-!
# Where the rules of an engine come from

Every rule of a registry came with a change that was made of it (`Registry.forall_rules`), so a
property that the rules of all changes have is one of every rule that an engine ever evaluates
(`Engine.run_forall_rules`).
-/

namespace Escalation

open Registry (Change)

namespace Registry

variable {p : Rule → Prop} {changes : List Change}

/-- The rules that a change brings. -/
def Change.rules : Change → List Rule
  | .add rule | .update _ rule => [rule]
  | .remove _ => []
  | .replaceAll rules => rules

theorem forall_record {rules : List Rule} {c : Change} (h : ∀ r ∈ rules, p r)
    (new : ∀ r ∈ c.rules, p r) : ∀ r ∈ c.record rules, p r := by
  cases c with
  | add rule => exact List.forall_mem_append.mpr ⟨h, new⟩
  | update name rule =>
    intro r mem
    obtain ⟨old, present, rfl⟩ := List.mem_map.mp mem
    split
    · exact new rule List.mem_cons_self
    · exact h old present
  | remove name => exact fun r mem => h r (List.mem_filter.mp mem).1
  | replaceAll rules => exact new

theorem forall_register {rules : List Rule} {c : Change} (h : ∀ r ∈ rules, p r)
    (new : ∀ r ∈ c.rules, p r) : ∀ r ∈ register rules c, p r := by
  unfold register
  split
  · exact forall_record h new
  · exact h

/-- **Every rule of a registry came with a change.** -/
theorem forall_rules (h : ∀ c ∈ changes, ∀ r ∈ c.rules, p r) :
    ∀ r ∈ (empty.afterAll changes).active.rules, p r := by
  have run : ∀ (changes : List Change) {rules : List Rule}, (∀ r ∈ rules, p r) →
      (∀ c ∈ changes, ∀ r ∈ c.rules, p r) → ∀ r ∈ changes.foldl register rules, p r := by
    intro changes
    induction changes with
    | nil => exact fun kept _ => kept
    | cons c changes ih =>
      intro rules kept new
      obtain ⟨first, others⟩ := List.forall_mem_cons.mp new
      exact ih (forall_register kept first) others
  intro r mem
  have own : r ∈ registered changes := (afterAll_registers changes).perm.mem_iff.mp mem
  exact run changes (List.forall_mem_nil p) h r own

end Registry

namespace Engine

variable {e : Engine} {before : List Change} {steps : List Step}

/-- The changes of a first part of a run are among those of the run. -/
theorem forall_changes_prefix {p : Change → Prop} {past later : List Step}
    (h : ∀ c ∈ before ++ changes (past ++ later), p c) : ∀ c ∈ before ++ changes past, p c := by
  rw [changes, List.filterMap_append, ← List.append_assoc] at h
  exact (List.forall_mem_append.mp h).1

/-- **Every rule of an engine came with a change**, before the run or in it. -/
theorem run_forall_rules {p : Rule → Prop} (registry : e.registry = Registry.empty.afterAll before)
    (h : ∀ c ∈ before ++ changes steps, ∀ r ∈ c.rules, p r) :
    ∀ r ∈ (e.run steps).registry.active.rules, p r := by
  have whole : (Registry.empty.afterAll before).afterAll (changes steps) =
      Registry.empty.afterAll (before ++ changes steps) := List.foldl_append.symm
  rw [run_registry, registry, whole]
  exact Registry.forall_rules h

end Engine

end Escalation
