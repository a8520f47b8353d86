import Escalation.Proofs.Rule.LastWriter

/-!
# What a list of actions skips

An action that is skipped leaves no trace but its entry in the report: the handoff after it is the
one before it (`Accounts.atomic`), so the rest of the list finds what it would find if the action had
never been there (`Accounts.pruned`). The report is exact. Every action is either counted or told of,
in ascending order of the places, with the fault that it met.

Applying one list after another is applying the two as one list (`applyAll_append`). What makes this
work is that a list of actions leaves the obstacle that it found (`refusal?_applyAll`): the second
list refuses behind the first what it refuses before it, so both halves can be told from one handoff.
-/

namespace Escalation

/-- The entry of an action that stands so many places further on. -/
def SkippedAction.shift (places : Nat) (s : SkippedAction) : SkippedAction :=
  { s with index := s.index + places }

namespace Applied

/-- What is left of a list of actions without those that were skipped. -/
def kept (a : Applied) (actions : List Action) : List Action :=
  (actions.zipIdx.filter fun (_, i) => a.skipped.all (·.index != i)).map Prod.fst

/-- Two reports as one. The first is of so many actions, the second of those behind them. -/
def followedBy (a : Applied) (places : Nat) (b : Applied) : Applied where
  handoff := b.handoff
  applied := a.applied + b.applied
  skipped := a.skipped ++ b.skipped.map (·.shift places)

end Applied

namespace Handoff

variable {h : Handoff} {index : Nat} {actions : List Action} {a b : Applied}

/-! ## Reports -/

theorem refused_append (h : Handoff) (index : Nat) (first second : List Action) :
    h.refused index (first ++ second) =
      h.refused index first ++ h.refused (index + first.length) second := by
  simp only [refused, List.zipIdx_append, List.filterMap_append]

theorem refused_add (h : Handoff) (places : Nat) (actions : List Action) : ∀ index,
    h.refused (index + places) actions = (h.refused index actions).map (·.shift places) := by
  induction actions with
  | nil => exact fun _ => rfl
  | cons action actions ih =>
    intro index
    have rest := ih (index + 1)
    rw [Nat.add_right_comm] at rest
    cases refusal : h.refusal? action with
    | none => rw [refused_of_taken refusal, refused_of_taken refusal, rest]
    | some cause =>
      rw [refused_of_refused refusal, refused_of_refused refusal, rest]
      rfl

theorem mem_refused {s : SkippedAction} : s ∈ h.refused 0 actions ↔
    ∃ action, actions[s.index]? = some action ∧ s.kind = action.kind ∧
      h.refusal? action = some s.cause := by
  simp only [refused, List.mem_filterMap, Prod.exists, Option.map_eq_some_iff]
  constructor
  · rintro ⟨action, i, mem, cause, refusal, rfl⟩
    exact ⟨action, List.mem_zipIdx_iff_getElem?.mp mem, rfl, refusal⟩
  · rintro ⟨action, place, kind, refusal⟩
    exact ⟨action, s.index, List.mem_zipIdx_iff_getElem?.mpr place, s.cause, refusal, by rw [← kind]⟩

theorem refused_ascending (h : Handoff) (index : Nat) (actions : List Action) :
    (h.refused index actions).Pairwise (·.index < ·.index) := by
  have places : (actions.zipIdx index).Pairwise (·.2 < ·.2) := by
    rw [← List.pairwise_map (f := Prod.snd) (R := (· < ·)), List.zipIdx_map_snd]
    exact List.pairwise_lt_range'
  refine List.pairwise_filterMap.mpr (places.imp fun lt s told t told' => ?_)
  obtain ⟨_, -, rfl⟩ := Option.map_eq_some_iff.mp told
  obtain ⟨_, -, rfl⟩ := Option.map_eq_some_iff.mp told'
  exact lt

theorem applicable_add_refused (h : Handoff) (actions : List Action) : ∀ index,
    (h.applicable actions).length + (h.refused index actions).length = actions.length := by
  induction actions with
  | nil => exact fun _ => rfl
  | cons action actions ih =>
    intro index
    have rest := ih (index + 1)
    cases refusal : h.refusal? action with
    | none =>
      rw [applicable_of_taken refusal, refused_of_taken refusal]
      simp only [List.length_cons]
      omega
    | some cause =>
      rw [applicable_of_refused refusal, refused_of_refused refusal]
      simp only [List.length_cons]
      omega

theorem refusal?_ne_none {action : Action} : h.refusal? action ≠ none ↔
    action.check ≠ .ok () ∨ action.kind = .setCustomField ∧ h.obstacle?.isSome := by
  rw [ne_eq, refusal?_eq_none, not_and_or, Classical.not_imp, Option.isSome_iff_ne_none]

/-- What carrying out a list of actions gives is determined. -/
theorem Carries.unique (one : h.Carries index actions a) (other : h.Carries index actions b) :
    a = b := by
  have handoff : a.handoff = b.handoff :=
    Except.ok.inj (one.handoff.symm.trans other.handoff)
  obtain ⟨⟩ := a
  obtain ⟨⟩ := b
  simp only [Applied.mk.injEq]
  exact ⟨handoff, one.applied.trans other.applied.symm, one.skipped.trans other.skipped.symm⟩

/-! ## One list after another -/

/-- **A list of actions refuses nothing anew.** -/
theorem refusal?_applyAll (h : Handoff) (actions : List Action) :
    (h.applyAll actions).handoff.refusal? = h.refusal? := by
  funext action
  simp only [refusal?, applyAll_obstacle h actions]

/-- **Two lists are applied one after the other as if they were one.** -/
theorem applyAll_append (h : Handoff) (first second : List Action) :
    h.applyAll (first ++ second) =
      (h.applyAll first).followedBy first.length ((h.applyAll first).handoff.applyAll second) := by
  have front := h.applyAll_carries first
  have back := (h.applyAll first).handoff.applyAll_carries second
  have same := refusal?_applyAll h first
  refine (h.applyAll_carries (first ++ second)).unique ⟨?_, ?_, ?_⟩
  · have run : (h.applicable second).foldlM apply (h.applyAll first).handoff =
        .ok ((h.applyAll first).handoff.applyAll second).handoff := by
      rw [← back.handoff, applicable, applicable, same]
    rw [applicable, List.filter_append, List.foldlM_append]
    exact (congrArg (· >>= _) front.handoff).trans run
  · rw [applicable, List.filter_append, List.length_append]
    simp only [Applied.followedBy, front.applied, back.applied, applicable, same]
  · rw [refused_append, refused_add]
    simp only [Applied.followedBy, front.skipped, back.skipped, refused, same]

theorem applyAll_refused {action : Action} {cause : ActionFault}
    (refused : h.apply action = .error cause) : (h.applyAll [action]).handoff = h := by
  simp only [applyAll, applyFrom, refused]

/-! ## The account -/

/-- **The report of a list of actions accounts for each of them.** An action meets the handoff that
the actions before it left. -/
structure Accounts (h : Handoff) (actions : List Action) (a : Applied) : Prop where
  total : a.applied + a.skipped.length = actions.length
  ascending : a.skipped.Pairwise (·.index < ·.index)
  /-- An action is skipped exactly if a parameter is blank, or if it sets a custom field while
  something else than an object stands in place of the custom fields. -/
  skipped : ∀ i, i ∈ a.skipped.map (·.index) ↔ ∃ action, actions[i]? = some action ∧
    (action.check ≠ .ok () ∨
      action.kind = .setCustomField ∧ (h.applyAll (actions.take i)).handoff.obstacle?.isSome)
  /-- The entry tells the fault that it met. -/
  told : ∀ s ∈ a.skipped, ∃ action, actions[s.index]? = some action ∧ s.kind = action.kind ∧
    (h.applyAll (actions.take s.index)).handoff.apply action = .error s.cause
  /-- It changes nothing. -/
  atomic : ∀ s ∈ a.skipped, (h.applyAll (actions.take (s.index + 1))).handoff =
    (h.applyAll (actions.take s.index)).handoff
  /-- Without the actions that are skipped all is applied, and to the same end. -/
  pruned : h.applyAll (a.kept actions) = ⟨a.handoff, a.applied, []⟩

theorem kept_applyAll (h : Handoff) (actions : List Action) :
    (h.applyAll actions).kept actions = h.applicable actions := by
  have places : actions.zipIdx.filter (fun (_, i) =>
        (h.applyAll actions).skipped.all (·.index != i)) =
      actions.zipIdx.filter fun e => (h.refusal? e.1).isNone := by
    refine List.filter_congr fun (action, i) mem => ?_
    have place : actions[i]? = some action := List.mem_zipIdx_iff_getElem?.mp mem
    rw [Bool.eq_iff_iff, List.all_eq_true, (h.applyAll_carries actions).skipped]
    constructor
    · intro untold
      cases refusal : h.refusal? action with
      | none => rfl
      | some cause =>
        have told := untold ⟨i, action.kind, cause⟩ (mem_refused.mpr ⟨action, place, rfl, refusal⟩)
        simp at told
    · rintro taken s told
      obtain ⟨other, place', -, refusal⟩ := mem_refused.mp told
      refine bne_iff_ne.mpr fun eq => ?_
      rw [eq, place] at place'
      cases place'
      simp [refusal] at taken
  rw [Applied.kept, places, applicable]
  calc (actions.zipIdx.filter fun e => (h.refusal? e.1).isNone).map Prod.fst
      = (actions.zipIdx.map Prod.fst).filter fun action => (h.refusal? action).isNone :=
        (List.filter_map (p := fun action => (h.refusal? action).isNone)).symm
    _ = actions.filter fun action => (h.refusal? action).isNone := by rw [List.zipIdx_map_fst]

theorem applyAll_applicable (h : Handoff) (actions : List Action) :
    h.applyAll (h.applicable actions) =
      ⟨(h.applyAll actions).handoff, (h.applyAll actions).applied, []⟩ := by
  have carries := h.applyAll_carries actions
  have taken : h.applicable (h.applicable actions) = h.applicable actions :=
    List.filter_eq_self.mpr fun action mem => (List.mem_filter.mp mem).2
  refine (h.applyAll_carries _).unique ⟨?_, ?_, ?_⟩
  · rw [taken]
    exact carries.handoff
  · rw [taken]
    exact carries.applied
  · have none : (h.refused 0 (h.applicable actions)).length = 0 := by
      have both := h.applicable_add_refused (h.applicable actions) 0
      rw [taken] at both
      omega
    exact (List.length_eq_zero_iff.mp none).symm

theorem applyAll_accounts (h : Handoff) (actions : List Action) :
    h.Accounts actions (h.applyAll actions) where
  total := by
    rw [(h.applyAll_carries actions).applied, (h.applyAll_carries actions).skipped]
    exact applicable_add_refused h actions 0
  ascending := by
    rw [(h.applyAll_carries actions).skipped]
    exact refused_ascending h 0 actions
  skipped i := by
    rw [(h.applyAll_carries actions).skipped, List.mem_map]
    simp only [mem_refused, applyAll_obstacle, ← refusal?_ne_none]
    constructor
    · rintro ⟨s, ⟨action, place, -, refusal⟩, rfl⟩
      exact ⟨action, place, by simp [refusal]⟩
    · rintro ⟨action, place, refused⟩
      obtain ⟨cause, refusal⟩ := Option.ne_none_iff_exists'.mp refused
      exact ⟨⟨i, action.kind, cause⟩, ⟨action, place, rfl, refusal⟩, rfl⟩
  told s mem := by
    rw [(h.applyAll_carries actions).skipped, mem_refused] at mem
    obtain ⟨action, place, kind, refusal⟩ := mem
    exact ⟨action, place, kind, apply_eq_error.mpr (by rw [refusal?_applyAll, refusal])⟩
  atomic s mem := by
    rw [(h.applyAll_carries actions).skipped, mem_refused] at mem
    obtain ⟨action, place, -, refusal⟩ := mem
    have refused : (h.applyAll (actions.take s.index)).handoff.apply action = .error s.cause :=
      apply_eq_error.mpr (by rw [refusal?_applyAll, refusal])
    rw [List.take_add_one, place, Option.toList_some, applyAll_append]
    exact applyAll_refused refused
  pruned := by rw [kept_applyAll, applyAll_applicable]

/-- **Skipped actions are accounted for and leave no trace, and applying lists composes.** -/
theorem applyAll_accounted (h : Handoff) (actions : List Action) :
    h.Accounts actions (h.applyAll actions) ∧
      ∀ more, h.applyAll (actions ++ more) =
        (h.applyAll actions).followedBy actions.length
          ((h.applyAll actions).handoff.applyAll more) :=
  ⟨applyAll_accounts h actions, applyAll_append h actions⟩

/-- A blank name and an empty list of tags are told of at their places, and what stands between them
is applied. -/
example :
    let report := applyAll default [.assignAgent " ", .setPriority .high, .addTags []]
    report.applied = 1 ∧ report.skipped.map (·.index) = [0, 2] ∧
      report.handoff.decision.priority = some .high := by
  decide

end Handoff

end Escalation
