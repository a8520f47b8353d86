import Escalation.Proofs.Keyed
import Escalation.Rule
import Escalation.Rule.Apply

/-!
# Which actions are applied

Whether an action can be applied is decided by its own parameters and, for a custom field, by what
the metadata hold in place of the custom fields (`Handoff.refusal?`). An action that is applied
does not change what stands there: a custom field is set in an object and leaves an object, and no
other action touches the metadata (`Handoff.obstacle?_apply`). So the actions of a list that are
skipped can be told from the handoff before the first of them, wherever they stand, and the others
are applied one after the other (`Handoff.applyAll_carries`).

The actions of a valid rule have good parameters. They are all applied where the custom fields are
an object or absent, and else all but those that set one (`Carries.clear`, `Carries.obstructed`).
-/

namespace Escalation

/-- An entry that is inserted is found, as it is stored. -/
theorem Attributes.find?_insert_self (a : Attributes) (name : String) (value : Value) :
    (a.insert name value).find? name = some value.canonical := by
  rw [find?, insert, Keyed.find?_insert, if_pos rfl]

namespace Handoff

/-! ## One action -/

/-- What stands in place of the custom fields, if that is something else than an object. -/
def obstacle? (h : Handoff) : Option Value.Kind :=
  match h.metadata.find? customFieldsName with
  | none => none
  | some (.object _) => none
  | some value => some value.kind

/-- Why an action cannot be applied to a handoff: one of its parameters is blank, or it sets a
custom field where there is no place for one. -/
def refusal? (h : Handoff) (action : Action) : Option ActionFault :=
  match action.check with
  | .error cause => some cause
  | .ok _ => if action.kind = .setCustomField then h.obstacle?.map .customFields else none

variable {h next : Handoff} {action : Action} {cause : ActionFault}

theorem setCustomField_eq_error {key : String} {value : Value} :
    h.setCustomField key value = .error cause ↔ h.obstacle?.map .customFields = some cause := by
  unfold setCustomField obstacle?
  cases h.metadata.find? customFieldsName with
  | none => simp
  | some found => cases found <;> simp

/-- Where a custom field can be set there was no obstacle, and there is none afterwards. -/
theorem obstacle?_setCustomField {key : String} {value : Value}
    (set : h.setCustomField key value = .ok next) : next.obstacle? = h.obstacle? := by
  have stored : ∀ members, ({ h with
      metadata := h.metadata.insert customFieldsName (.object members) } : Handoff).obstacle? =
        none := by
    intro members
    simp only [obstacle?, Attributes.find?_insert_self, Value.canonical]
  unfold setCustomField at set
  have before : h.obstacle? = none := by
    unfold obstacle?
    split at set <;> simp_all
  rw [before]
  split at set <;> cases set <;> exact stored _

/-- **An action is refused for the reason that can be told before.** -/
theorem apply_eq_error : h.apply action = .error cause ↔ h.refusal? action = some cause := by
  unfold apply refusal?
  cases action.check with
  | error fault => simp [bind, Except.bind]
  | ok u =>
    cases action with
    | setCustomField key value =>
      simp only [bind, Except.bind, Action.kind, if_true]
      exact setCustomField_eq_error
    | _ => simp [bind, Except.bind, pure, Except.pure, Action.kind]

/-- **What an action leaves has the obstacle that there was.** -/
theorem obstacle?_apply (applied : h.apply action = .ok next) : next.obstacle? = h.obstacle? := by
  unfold apply at applied
  cases check : action.check with
  | error fault => simp [check, bind, Except.bind] at applied
  | ok u =>
    rw [check] at applied
    cases action with
    | setCustomField key value => exact obstacle?_setCustomField applied
    | _ =>
      cases applied
      rfl

/-- So it refuses the same actions. -/
theorem refusal?_apply (applied : h.apply action = .ok next) (other : Action) :
    next.refusal? other = h.refusal? other := by
  simp only [refusal?, obstacle?_apply applied]

/-! ## A list of actions -/

/-- The actions of a list that can be applied. -/
def applicable (h : Handoff) (actions : List Action) : List Action :=
  actions.filter fun action => (h.refusal? action).isNone

/-- The actions of a list that cannot be applied, with their places counted from a number on. -/
def refused (h : Handoff) (index : Nat) (actions : List Action) : List SkippedAction :=
  (actions.zipIdx index).filterMap fun (action, i) =>
    (h.refusal? action).map (⟨i, action.kind, ·⟩)

theorem applicable_of_taken (taken : h.refusal? action = none) (actions : List Action) :
    h.applicable (action :: actions) = action :: h.applicable actions :=
  List.filter_cons_of_pos (by rw [taken]; rfl)

theorem applicable_of_refused (refusal : h.refusal? action = some cause) (actions : List Action) :
    h.applicable (action :: actions) = h.applicable actions :=
  List.filter_cons_of_neg (by simp [refusal])

theorem refused_of_taken (taken : h.refusal? action = none) (index : Nat) (actions : List Action) :
    h.refused index (action :: actions) = h.refused (index + 1) actions := by
  simp only [refused, List.zipIdx_cons, List.filterMap_cons, taken, Option.map_none]

theorem refused_of_refused (refusal : h.refusal? action = some cause) (index : Nat)
    (actions : List Action) : h.refused index (action :: actions) =
      ⟨index, action.kind, cause⟩ :: h.refused (index + 1) actions := by
  simp only [refused, List.zipIdx_cons, List.filterMap_cons, refusal, Option.map_some]

/-- **A list of actions is carried out**: those that can be applied are, one after the other, and
the others are told of. -/
structure Carries (h : Handoff) (index : Nat) (actions : List Action) (a : Applied) : Prop where
  handoff : (h.applicable actions).foldlM apply h = .ok a.handoff
  applied : a.applied = (h.applicable actions).length
  skipped : a.skipped = h.refused index actions

/-- The induction is on the list, from any handoff: the one after the first action refuses what the
one before it does. -/
theorem applyFrom_carries (actions : List Action) : ∀ (h : Handoff) (index : Nat),
    h.Carries index actions (h.applyFrom index actions) := by
  induction actions with
  | nil => exact fun h index => ⟨rfl, rfl, rfl⟩
  | cons action actions ih =>
    intro h index
    cases outcome : h.apply action with
    | ok next =>
      have taken : h.refusal? action = none := by
        refine Option.eq_none_iff_forall_ne_some.mpr fun cause refused => ?_
        cases outcome.symm.trans (apply_eq_error.mpr refused)
      have same : next.refusal? = h.refusal? := funext (refusal?_apply outcome)
      have rest := ih next (index + 1)
      have applicable : h.applicable (action :: actions) = action :: next.applicable actions := by
        rw [applicable_of_taken taken, Handoff.applicable, Handoff.applicable, same]
      simp only [applyFrom, outcome]
      refine ⟨?_, ?_, ?_⟩
      · rw [applicable, List.foldlM_cons, outcome]
        exact rest.handoff
      · rw [applicable, List.length_cons, rest.applied]
      · rw [refused_of_taken taken, rest.skipped, refused, refused, same]
    | error cause =>
      have refusal := apply_eq_error.mp outcome
      have rest := ih h (index + 1)
      simp only [applyFrom, outcome]
      refine ⟨?_, ?_, ?_⟩
      · rw [applicable_of_refused refusal]
        exact rest.handoff
      · rw [applicable_of_refused refusal]
        exact rest.applied
      · rw [refused_of_refused refusal, rest.skipped]

/-- **What applying a list of actions gives.** -/
theorem applyAll_carries (h : Handoff) (actions : List Action) :
    h.Carries 0 actions (h.applyAll actions) :=
  applyFrom_carries actions h 0

/-! ## Actions with good parameters -/

section Valid

variable {index : Nat} {actions : List Action} {a : Applied}

/-- An action with good parameters is refused only if it sets a custom field where there is no
place for one. -/
theorem refusal?_of_check (valid : action.check = .ok ()) :
    h.refusal? action =
      if action.kind = .setCustomField then h.obstacle?.map .customFields else none := by
  rw [refusal?, valid]

/-- **Actions with good parameters are all applied**, and none is skipped, where the custom fields
are an object or absent. -/
theorem Carries.clear (carries : h.Carries index actions a)
    (valid : ∀ action ∈ actions, action.check = .ok ()) (free : h.obstacle? = none) :
    a.skipped = [] ∧ actions.foldlM apply h = .ok a.handoff := by
  have taken : ∀ action ∈ actions, h.refusal? action = none := by
    intro action mem
    rw [refusal?_of_check (valid action mem), free]
    exact ite_self _
  constructor
  · rw [carries.skipped, refused, List.filterMap_eq_nil_iff]
    rintro ⟨action, i⟩ mem
    simp only [taken action (List.fst_mem_of_mem_zipIdx mem), Option.map_none]
  · have all : h.applicable actions = actions :=
      List.filter_eq_self.mpr fun action mem => by rw [taken action mem]; rfl
    rw [← carries.handoff, all]

/-- **Where something else stands in place of the custom fields**, exactly the actions that set one
are skipped, in their order, and all others are applied. -/
theorem Carries.obstructed (carries : h.Carries index actions a)
    (valid : ∀ action ∈ actions, action.check = .ok ()) {kind : Value.Kind}
    (obstacle : h.obstacle? = some kind) :
    a.skipped = ((actions.zipIdx index).filter (·.1.kind = .setCustomField)).map
        (fun (_, i) => ⟨i, .setCustomField, .customFields kind⟩) ∧
      (actions.filter (·.kind ≠ .setCustomField)).foldlM apply h = .ok a.handoff := by
  have refusal : ∀ action ∈ actions, h.refusal? action =
      if action.kind = .setCustomField then some (.customFields kind) else none := by
    intro action mem
    rw [refusal?_of_check (valid action mem), obstacle]
    rfl
  constructor
  · rw [carries.skipped, refused, ← List.filterMap_eq_map, ← List.filterMap_eq_filter,
      List.filterMap_filterMap]
    refine List.filterMap_congr fun ⟨action, i⟩ mem => ?_
    simp only [refusal action (List.fst_mem_of_mem_zipIdx mem)]
    by_cases sets : action.kind = .setCustomField
    · simp [sets, Option.guard]
    · simp [sets, Option.guard]
  · have others : h.applicable actions = actions.filter (·.kind ≠ .setCustomField) := by
      refine List.filter_congr fun action mem => ?_
      rw [refusal action mem]
      by_cases sets : action.kind = .setCustomField
      · simp [sets]
      · simp [sets]
    rw [← carries.handoff, others]

end Valid

end Handoff

/-! ## Valid rules -/

namespace Rule

variable {rule : Rule}

theorem firstFault_eq_ok {α ε : Type} {check : α → Except ε Unit} (fault : Nat → ε → RuleFault)
    (items : List α) : ∀ index,
    firstFault check fault index items = .ok () ↔ ∀ a ∈ items, check a = .ok () := by
  induction items with
  | nil => simp [firstFault]
  | cons a items ih =>
    intro index
    cases checked : check a <;> simp [firstFault, checked, ih]

/-- **A rule is valid** if it has a name and its conditions and actions are valid. -/
theorem validate_eq_ok : rule.validate = .ok () ↔
    Text.isBlankText rule.name = false ∧ (∀ c ∈ rule.conditions, c.validate = .ok ()) ∧
      ∀ action ∈ rule.actions, action.check = .ok () := by
  have checks : Condition.validateWith Condition.PatternKey.compile? = Condition.validate := rfl
  unfold validate validateWith
  rw [checks]
  cases Text.isBlankText rule.name with
  | true => simp [bind, Except.bind]
  | false =>
    rw [← firstFault_eq_ok (.condition rule.name) rule.conditions 0,
      ← firstFault_eq_ok (.action rule.name) rule.actions 0]
    cases firstFault Condition.validate (.condition rule.name) 0 rule.conditions <;>
      simp [bind, Except.bind]

end Rule

end Escalation
