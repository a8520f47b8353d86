import Escalation.Event

/-!
# Applying actions

The actions of a matched rule change a decision and its metadata, one after the other. An action
that cannot be applied is skipped, with its place and the reason, and the others are applied all
the same.
-/

namespace Escalation

/-- An action that was not applied, by its place in the list, and why. -/
structure SkippedAction where
  index : Nat
  kind : ActionKind
  cause : ActionFault
deriving DecidableEq, Repr

/-- What actions are applied to: a decision and its metadata. -/
structure Handoff where
  decision : Decision
  metadata : Attributes
deriving Inhabited

/-- What applying actions gives: the handoff in the end, how many actions were applied, and those
that were not. -/
structure Applied where
  handoff : Handoff
  /-- How many actions were applied. -/
  applied : Nat
  skipped : List SkippedAction
deriving Inhabited

namespace Handoff

def mapDecision (h : Handoff) (f : Decision → Decision) : Handoff :=
  { h with decision := f h.decision }

/-- The custom fields of the metadata, if they are an object. -/
def customFields? (h : Handoff) : Option (List (String × Value)) :=
  match h.metadata.find? customFieldsName with
  | some (.object members) => some members
  | _ => none

def setCustomField (h : Handoff) (key : String) (value : Value) : Except ActionFault Handoff :=
  let store (members : List (String × Value)) : Handoff :=
    { h with
      metadata := h.metadata.insert customFieldsName (.object (Keyed.insert key value members)) }
  match h.metadata.find? customFieldsName with
  | none => .ok (store [])
  | some (.object members) => .ok (store members)
  | some other => .error (.customFields other.kind)

/-- The handoff after an action. It fails with the handoff as it was: an action is applied as a
whole or not at all. -/
def apply (h : Handoff) (action : Action) : Except ActionFault Handoff := do
  action.check
  match action with
  | .assignAgent id => return h.mapDecision ({ · with assignment := some (.agent id) })
  | .assignQueue id => return h.mapDecision ({ · with assignment := some (.queue id) })
  | .assignDepartment name =>
    return h.mapDecision ({ · with assignment := some (.department name) })
  | .setPriority priority => return h.mapDecision ({ · with priority := some priority })
  | .addTags tags => return h.mapDecision fun d => { d with tags := d.tags.insertAll tags }
  | .removeTags tags => return h.mapDecision fun d => { d with tags := d.tags.eraseAll tags }
  | .setCustomField key value => h.setCustomField key value
  | .routeToFallback reason =>
    return h.mapDecision fun d =>
      { d with routeToFallback := true, fallbackReason := reason <|> d.fallbackReason }

def applyFrom (h : Handoff) : Nat → List Action → Applied
  | _, [] => ⟨h, 0, []⟩
  | index, action :: actions =>
    match h.apply action with
    | .ok h =>
      let rest := h.applyFrom (index + 1) actions
      { rest with applied := rest.applied + 1 }
    | .error cause =>
      let rest := h.applyFrom (index + 1) actions
      { rest with skipped := ⟨index, action.kind, cause⟩ :: rest.skipped }

/-- The handoff after a list of actions, one after the other. An action that fails is skipped and
the rest are applied, so a later action may undo what an earlier one did, and the last that writes
a place decides it. -/
def applyAll (h : Handoff) (actions : List Action) : Applied :=
  h.applyFrom 0 actions

end Handoff

end Escalation
