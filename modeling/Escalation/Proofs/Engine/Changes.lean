import Escalation.Proofs.Engine.Evaluate
import Escalation.Proofs.Registry.Invariant

/-!
# Changes of an engine's rules

A change of the registry has one of three answers. It fails, and the engine stays as it is; it is
the removal of a rule that is not there, and answers with the present version; or it makes another
registry, and answers with that one's version, which is the next.

Which of them it is depends on the registered rules alone (`Change.accepted`, `Change.isIdle`).
Versions are words of 64 bits, so that the next one is greater needs a word on how many changes
there were: a registry that began empty has at most the version that counts them (`version_le`).
-/

namespace Escalation

namespace Registry

variable {r : Registry} {c : Change}

/-- Whether a change is the removal of a rule that is not there. -/
def Change.isIdle (rules : List Rule) : Change → Bool
  | .remove name => !named name rules
  | _ => false

/-- An idle change succeeds and leaves the registry as it is. -/
theorem apply_of_isIdle (h : c.isIdle r.active.rules = true) : r.apply c = .ok r := by
  cases c with
  | remove name =>
    have absent : r.active.contains name = false := by
      simpa only [Change.isIdle, named_rules, Bool.not_eq_true'] using h
    rw [apply, remove, absent]
    rfl
  | add rule | update name rule | replaceAll rules => cases h

/-- What a change makes that is not idle is at the next version. -/
theorem perform_version (h : c.isIdle r.active.rules = false) :
    (c.perform r).version = r.version + 1 := by
  cases c with
  | remove name =>
    have present : r.active.contains name = true := by
      simpa only [Change.isIdle, named_rules, Bool.not_eq_false'] using h
    rw [Change.perform, remove, present]
    rfl
  | add rule | update name rule | replaceAll rules => rfl

/-- A change that is made among fewer than `2 ^ 64` others brings the registry to another version
for good. -/
theorem afterAll_version_ne {before after : List Change}
    (accepted : c.accepted (r.afterAll before).active.rules = true)
    (acts : c.isIdle (r.afterAll before).active.rules = false)
    (few : (before ++ c :: after).length < 2 ^ 64) :
    (r.afterAll (before ++ c :: after)).version ≠ r.version := by
  obtain ⟨m, hm, first, -⟩ := afterAll_version before r
  obtain ⟨n, hn, rest, -⟩ := afterAll_version after (c.perform (r.afterAll before))
  have next : (r.afterAll before).after c = c.perform (r.afterAll before) := by
    rw [after_eq, accepted, if_pos rfl]
  have split : r.afterAll (before ++ c :: after) =
      (c.perform (r.afterAll before)).afterAll after := by
    rw [← next]
    exact List.foldl_append
  have total : (r.afterAll (before ++ c :: after)).version = r.version + UInt64.ofNat (m + 1 + n) := by
    rw [split, rest, perform_version acts, first, UInt64.ofNat_add, UInt64.ofNat_add,
      UInt64.add_assoc, UInt64.add_assoc, ← UInt64.add_assoc (UInt64.ofNat m)]
    rfl
  rw [List.length_append, List.length_cons] at few
  rw [total, Ne, UInt64.add_eq_left]
  intro none
  have wrapped := congrArg UInt64.toNat none
  rw [UInt64.toNat_ofNat', Nat.mod_eq_of_lt (by omega)] at wrapped
  exact absurd wrapped (by simp)

/-- The version counts at most the changes that there were. -/
theorem version_le (changes : List Change) :
    (empty.afterAll changes).version.toNat ≤ changes.length := by
  obtain ⟨n, le, version, -⟩ := afterAll_version changes empty
  have start : (empty : Registry).version = 0 := rfl
  rw [version, start, UInt64.zero_add, UInt64.toNat_ofNat']
  exact (Nat.mod_le n _).trans le

end Registry

namespace Engine

open Registry (Change)

/-- **What a reached registry is, and what the next change does to it.** The registry keeps its
invariant. A change that is not accepted fails and changes nothing; a removal of what is not there
answers with the present version and changes nothing; every other change makes the registry that
runs are made of, and answers with its version, which is greater by one. -/
theorem change_reached {e : Engine} (changes : List Change)
    (reached : e.registry = Registry.empty.afterAll changes) :
    e.registry.Invariant ∧ ∀ c : Change,
      (c.accepted e.registry.active.rules = false →
        ∃ cause, e.change (·.apply c) = (.error cause, e)) ∧
      (c.isIdle e.registry.active.rules = true →
        e.change (·.apply c) = (.ok e.registry.version, e)) ∧
      (c.accepted e.registry.active.rules = true → c.isIdle e.registry.active.rules = false →
        (changes ++ [c]).length < 2 ^ 64 →
          ∃ version, e.change (·.apply c) =
              (.ok version, { e with registry := e.registry.after c }) ∧
            (e.registry.after c).version = version ∧
            version.toNat = e.registry.version.toNat + 1) := by
  refine ⟨reached ▸ Registry.invariant_afterAll changes, fun c => ⟨?_, ?_, ?_⟩⟩
  · intro refused
    obtain ⟨cause, failed⟩ := Registry.apply_of_refused refused
    exact ⟨cause, by rw [change, failed]⟩
  · intro idle
    rw [change, Registry.apply_of_isIdle idle]
  · intro accepted acts few
    have next : e.registry.after c = c.perform e.registry := by
      rw [Registry.after_eq, accepted, if_pos rfl]
    have raised : (e.registry.after c).version = e.registry.version + 1 := by
      rw [next, Registry.perform_version acts]
    refine ⟨(e.registry.after c).version, ?_, rfl, ?_⟩
    · rw [change, Registry.apply_of_accepted accepted, next]
    · have bound := Registry.version_le changes
      rw [← reached] at bound
      rw [List.length_append, List.length_singleton] at few
      rw [raised, UInt64.toNat_add, UInt64.toNat_one, Nat.mod_eq_of_lt (by omega)]

section Witness

/-- The rule `vip` is renamed; it cannot be added a second time, and removing another one does
nothing. -/
theorem tierEngine_change :
    tierEngine.registry.Invariant ∧
      (∃ version, tierEngine.change (·.apply (.update "vip" { tierRule with name := "gold" })) =
          (.ok version, { tierEngine with
            registry := tierEngine.registry.after
              (.update "vip" { tierRule with name := "gold" }) }) ∧
        version.toNat = 2) ∧
      (∃ cause, tierEngine.change (·.apply (.add tierRule)) = (.error cause, tierEngine)) ∧
      tierEngine.change (·.apply (.remove "gold")) =
        (.ok tierEngine.registry.version, tierEngine) := by
  obtain ⟨invariant, effect⟩ := change_reached [.add tierRule] (e := tierEngine) rfl
  obtain ⟨version, answer, -, raised⟩ :=
    (effect (.update "vip" { tierRule with name := "gold" })).2.2 (by decide) (by decide)
      (by decide)
  exact ⟨invariant, ⟨version, answer, raised⟩, (effect (.add tierRule)).1 (by decide),
    (effect (.remove "gold")).2.1 (by decide)⟩

end Witness

end Engine

end Escalation
