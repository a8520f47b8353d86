import Escalation.Proofs.Form.Value
import Escalation.Proofs.Rule.Application

/-!
# The last writer wins

A decision and its metadata fall into places that the actions write to, each by itself: the
assignment, the priority, every tag, the fallback and its reason, every custom field. An action that
is applied leaves in a place what it writes there and else what was there (`Handoff.Does`), so after
a list of actions a place holds what the last of its writers wrote, or what it held before if it has
none (`foldlM_last`). Only actions with good parameters count (`Action.effective`).

`LastWriterWins` goes through the places, and says that everything else stays as it was. The custom
fields need care: they are made when the first is set, and where something else stands in their
place no action writes them.

The places together are the whole of a handoff. A second round of the same actions has the same last
writers, so it changes nothing (`LastWriterWins.again`).
-/

namespace Escalation

namespace TagSet

variable {tag : String} {tags : List String}

theorem mem_insertAll : ∀ {set : TagSet},
    tag ∈ (set.insertAll tags).tags ↔ tag ∈ tags ∨ tag ∈ set.tags := by
  induction tags with
  | nil => simp [insertAll]
  | cons t tags ih =>
    intro set
    have first : tag ∈ (set.insert t).tags ↔ tag = t ∨ tag ∈ set.tags := mem_insertTag
    rw [show set.insertAll (t :: tags) = (set.insert t).insertAll tags from rfl, ih, first,
      List.mem_cons, or_left_comm, or_assoc]

theorem mem_eraseAll : ∀ {set : TagSet},
    tag ∈ (set.eraseAll tags).tags ↔ tag ∉ tags ∧ tag ∈ set.tags := by
  induction tags with
  | nil => simp [eraseAll]
  | cons t tags ih =>
    intro set
    have first : tag ∈ (set.erase t).tags ↔ tag ∈ set.tags ∧ tag ≠ t := by simp [erase]
    rw [show set.eraseAll (t :: tags) = (set.erase t).eraseAll tags from rfl, ih, first,
      List.mem_cons, not_or, and_comm (a := tag ∈ set.tags), and_left_comm, and_assoc]

/-- A set of tags is determined by its members. -/
theorem ext_of_mem {a b : TagSet} (same : ∀ tag, tag ∈ a.tags ↔ tag ∈ b.tags) : a = b := by
  have : Std.Irrefl fun s t : String => s < t := ⟨String.lt_irrefl⟩
  have : Std.Antisymm fun s t : String => s < t :=
    ⟨fun _ _ lt gt => absurd (String.lt_trans lt gt) (String.lt_irrefl _)⟩
  exact TagSet.ext (List.Pairwise.eq_of_mem_iff a.ascending b.ascending same)

end TagSet

/-! ## What actions write -/

namespace Action

variable {β : Type} {action : Action} {actions : List Action}

/-- The actions of a list that have good parameters. -/
def effective (actions : List Action) : List Action :=
  actions.filter (·.check.isOk)

/-- What the last writer of a list writes. -/
def lastOf (write : Action → Option β) (actions : List Action) : Option β :=
  (actions.filterMap write).getLast?

/-- The priority that the action sets. -/
def priority? : Action → Option Priority
  | setPriority priority => some priority
  | _ => none

/-- What the action says of a tag, if it names it: that it is there, or that it is not. -/
def tagged? (tag : String) : Action → Option Bool
  | addTags tags => if tag ∈ tags then some true else none
  | removeTags tags => if tag ∈ tags then some false else none
  | _ => none

/-- The action takes the fallback, or says nothing of it. -/
def fallback? : Action → Option Bool
  | routeToFallback _ => some true
  | _ => none

/-- The reason for the fallback that the action gives. -/
def fallbackReason? : Action → Option String
  | routeToFallback reason => reason
  | _ => none

/-- The custom field that the action sets, if it is this one, as it is stored. -/
def customField? (key : String) : Action → Option Value
  | setCustomField k value => if k = key then some value.canonical else none
  | _ => none

theorem check_isOk : action.check.isOk = true ↔ action.check = .ok () := by
  cases action.check <;> simp [Except.isOk, Except.toBool]

theorem mem_effective : action ∈ effective actions ↔ action ∈ actions ∧ action.check = .ok () := by
  rw [effective, List.mem_filter, check_isOk]

/-- A priority and a reason for the fallback are never blank. -/
theorem silent_of_bad (bad : action.check ≠ .ok ()) :
    action.priority? = none ∧ action.fallback? = none ∧ action.fallbackReason? = none := by
  cases action with
  | setPriority _ | routeToFallback _ => exact absurd rfl bad
  | _ => exact ⟨rfl, rfl, rfl⟩

variable {write : Action → Option β}

theorem lastOf_cons : lastOf write (action :: actions) =
    (lastOf write actions).or (write action) := by
  unfold lastOf
  cases written : write action with
  | none => rw [List.filterMap_cons_none written, Option.or_none]
  | some value =>
    rw [List.filterMap_cons_some written, List.getLast?_cons]
    cases (actions.filterMap write).getLast? <;> rfl

theorem lastOf_eq_none : lastOf write actions = none ↔ ∀ action ∈ actions, write action = none := by
  rw [lastOf, List.getLast?_eq_none_iff, List.filterMap_eq_nil_iff]

/-- Where the writers all have good parameters, the others may be left out. -/
theorem lastOf_effective (good : ∀ action, action.check ≠ .ok () → write action = none) :
    lastOf write (effective actions) = lastOf write actions := by
  unfold lastOf effective
  rw [List.filterMap_filter]
  refine congrArg List.getLast? (List.filterMap_congr fun action _ => ?_)
  by_cases ok : action.check = .ok ()
  · rw [if_pos (check_isOk.mpr ok)]
  · rw [if_neg (check_isOk.not.mpr ok), good action ok]

/-- What the last writer writes is written by one of them. -/
theorem exists_of_lastOf {value : β} (last : lastOf write actions = some value) :
    ∃ action ∈ actions, write action = some value :=
  List.mem_filterMap.mp (List.mem_of_getLast? last)

/-- What is written to a place that may be empty. -/
theorem lastOf_map_some (before : Option β) :
    (lastOf (fun action => (write action).map some) actions).getD before =
      (lastOf write actions).or before := by
  have mapped : lastOf (fun action => (write action).map some) actions =
      (lastOf write actions).map some := by
    rw [lastOf, lastOf, ← List.getLast?_map, List.map_filterMap]
  rw [mapped]
  cases lastOf write actions <;> rfl

end Action

namespace Handoff

open Escalation.Action

variable {β : Type} {h next : Handoff} {action : Action} {actions : List Action}

/-! ## One action -/

/-- The members of the custom fields, of which there are none where these are absent. -/
def fields (h : Handoff) : List (String × Value) :=
  h.customFields?.getD []

/-- The handoff with one of them set. -/
def withField (h : Handoff) (key : String) (value : Value) : Handoff :=
  { h with
    metadata := h.metadata.insert customFieldsName (.object (Keyed.insert key value h.fields)) }

theorem setCustomField_eq_ok {key : String} {value : Value} :
    h.setCustomField key value = .ok next ↔ h.obstacle? = none ∧ next = h.withField key value := by
  unfold setCustomField obstacle? withField fields customFields?
  cases h.metadata.find? customFieldsName with
  | none => simp [eq_comm]
  | some found => cases found <;> simp [eq_comm]

/-- **What an action does** that is applied. -/
inductive Does (h : Handoff) : Action → Handoff → Prop
  | assignAgent (id : String) :
    Does h (.assignAgent id) (h.mapDecision ({ · with assignment := some (.agent id) }))
  | assignQueue (id : String) :
    Does h (.assignQueue id) (h.mapDecision ({ · with assignment := some (.queue id) }))
  | assignDepartment (name : String) :
    Does h (.assignDepartment name)
      (h.mapDecision ({ · with assignment := some (.department name) }))
  | setPriority (priority : Priority) :
    Does h (.setPriority priority) (h.mapDecision ({ · with priority := some priority }))
  | addTags (tags : List String) :
    Does h (.addTags tags) (h.mapDecision fun d => { d with tags := d.tags.insertAll tags })
  | removeTags (tags : List String) :
    Does h (.removeTags tags) (h.mapDecision fun d => { d with tags := d.tags.eraseAll tags })
  | setCustomField (key : String) (value : Value) (free : h.obstacle? = none) :
    Does h (.setCustomField key value) (h.withField key value)
  | routeToFallback (reason : Option String) :
    Does h (.routeToFallback reason) (h.mapDecision fun d =>
      { d with routeToFallback := true, fallbackReason := reason <|> d.fallbackReason })

theorem does_of_apply (applied : h.apply action = .ok next) : h.Does action next := by
  unfold apply at applied
  cases check : action.check with
  | error fault => simp [check, bind, Except.bind] at applied
  | ok u =>
    rw [check] at applied
    cases action with
    | setCustomField key value =>
      obtain ⟨free, rfl⟩ := setCustomField_eq_ok.mp applied
      exact .setCustomField key value free
    | _ =>
      cases applied
      constructor

/-- **The last writer wins** in a place, if every action leaves there what it writes, and else what
was there. The induction is on the list: what the first action wrote stays unless a later one
writes. -/
theorem foldlM_last (read : Handoff → β) (write : Action → Option β)
    (each : ∀ action ∈ actions, ∀ {h next : Handoff}, h.apply action = .ok next →
      read next = (write action).getD (read h))
    (run : actions.foldlM apply h = .ok next) :
    read next = (lastOf write actions).getD (read h) := by
  induction actions generalizing h with
  | nil =>
    cases run
    rfl
  | cons action actions ih =>
    rw [List.foldlM_cons] at run
    cases step : h.apply action with
    | error cause =>
      rw [step] at run
      cases run
    | ok second =>
      rw [step] at run
      have rest := ih (fun other mem => each other (.tail _ mem)) run
      rw [rest, each action (.head _) step, lastOf_cons]
      cases lastOf write actions <;> rfl

/-! ## The custom fields -/

theorem customFields?_eq_some {members : List (String × Value)} :
    h.customFields? = some members ↔
      h.metadata.find? customFieldsName = some (.object members) := by
  unfold customFields?
  split
  · next found => rw [found, Option.some.injEq, Option.some.injEq, Value.object.injEq]
  · next other => exact iff_of_false nofun (other members)

/-- The custom fields are in order, at every depth. -/
theorem fields_canonical (h : Handoff) : (Value.object h.fields).Canonical := by
  unfold fields customFields?
  split
  · next members found =>
    exact (Value.canonicalMembers_iff _).mp h.metadata.canonical _ (Keyed.mem_of_find? found)
  · exact ⟨.nil, trivial⟩

theorem customFields?_withField (h : Handoff) (key : String) (value : Value) :
    (h.withField key value).customFields? =
      some (Keyed.ofList (Value.canonicalMembers (Keyed.insert key value h.fields))) := by
  simp only [customFields?, withField, Attributes.find?_insert_self, Value.canonical]

/-- **A custom field that is set is found**, as it is stored, and every other as before. -/
theorem find?_fields_withField (h : Handoff) (key : String) (value : Value) (other : String) :
    Keyed.find? other (h.withField key value).fields =
      if key = other then some value.canonical else Keyed.find? other h.fields := by
  obtain ⟨ascending, canonical⟩ := h.fields_canonical
  have distinct :
      ((Value.canonicalMembers (Keyed.insert key value h.fields)).map Prod.fst).Nodup := by
    rw [Value.canonicalMembers_names]
    exact (Keyed.ascending_insert key value ascending).nodup
  have kept : (Keyed.find? other h.fields).map Value.canonical = Keyed.find? other h.fields := by
    rw [← Value.find?_canonicalMembers, Value.canonicalMembers_of_canonical _ canonical]
  rw [fields, customFields?_withField, Option.getD_some, Keyed.find?_ofList distinct,
    Value.find?_canonicalMembers, Keyed.find?_insert]
  split
  · rfl
  · exact kept

/-! ## A list of actions -/

theorem refusal?_eq_none : h.refusal? action = none ↔
    action.check = .ok () ∧ (action.kind = .setCustomField → h.obstacle? = none) := by
  unfold refusal?
  cases action.check with
  | error cause => simp
  | ok u => by_cases sets : action.kind = .setCustomField <;> simp [sets]

/-- The actions that are applied have the last writer of those with good parameters, unless an
obstacle keeps the writers from being applied. -/
theorem lastOf_applicable {write : Action → Option β}
    (free : h.obstacle? = none ∨ ∀ key value, write (.setCustomField key value) = none) :
    lastOf write (h.applicable actions) = lastOf write (effective actions) := by
  unfold lastOf applicable effective
  rw [List.filterMap_filter, List.filterMap_filter]
  refine congrArg List.getLast? (List.filterMap_congr fun action _ => ?_)
  by_cases writes : write action = none
  · rw [writes, ite_self, ite_self]
  · have unhindered : action.kind = .setCustomField → h.obstacle? = none := by
      intro sets
      refine free.resolve_right fun silent => writes ?_
      cases action with
      | setCustomField key value => exact silent key value
      | _ => cases sets
    have same : (h.refusal? action).isNone = true ↔ action.check.isOk = true := by
      rw [Option.isNone_iff_eq_none, refusal?_eq_none, check_isOk, and_iff_left unhindered]
    simp only [same]

/-- **After a list of actions a place holds what its last writer wrote**, if no obstacle kept the
writers from it. -/
theorem applyAll_last (read : Handoff → β) {write : Action → Option β}
    (each : ∀ {action : Action} {h next : Handoff}, h.apply action = .ok next →
      read next = (write action).getD (read h))
    (free : h.obstacle? = none ∨ ∀ key value, write (.setCustomField key value) = none) :
    read (h.applyAll actions).handoff = (lastOf write (effective actions)).getD (read h) := by
  rw [← lastOf_applicable free]
  exact foldlM_last read write (fun _ _ => each) (h.applyAll_carries actions).handoff

/-- What no action writes stays as it was. -/
theorem applyAll_keeps (read : Handoff → β)
    (each : ∀ action ∈ h.applicable actions, ∀ {h next : Handoff}, h.apply action = .ok next →
      read next = read h) :
    read (h.applyAll actions).handoff = read h := by
  have silent : lastOf (fun _ => (none : Option β)) (h.applicable actions) = none :=
    lastOf_eq_none.mpr fun _ _ => rfl
  rw [foldlM_last read (fun _ => none) each (h.applyAll_carries actions).handoff, silent,
    Option.getD_none]

/-! ## Place by place -/

/-- An action that counts sets a custom field, where these are an object or absent. -/
def SetsFields (h : Handoff) (actions : List Action) : Prop :=
  h.obstacle? = none ∧ ∃ key value, Action.setCustomField key value ∈ effective actions

section Places

variable (h : Handoff) (actions : List Action)

theorem applyAll_assignment : (h.applyAll actions).handoff.decision.assignment =
    (lastOf assignment? (effective actions)).or h.decision.assignment := by
  rw [← lastOf_map_some]
  refine applyAll_last (·.decision.assignment) (fun applied => ?_) (.inr fun _ _ => rfl)
  cases does_of_apply applied <;> rfl

theorem applyAll_priority : (h.applyAll actions).handoff.decision.priority =
    (lastOf priority? actions).or h.decision.priority := by
  rw [← lastOf_effective fun _ bad => (silent_of_bad bad).1, ← lastOf_map_some]
  refine applyAll_last (·.decision.priority) (fun applied => ?_) (.inr fun _ _ => rfl)
  cases does_of_apply applied <;> rfl

theorem applyAll_tag (tag : String) : tag ∈ (h.applyAll actions).handoff.decision.tags.tags ↔
    lastOf (tagged? tag) (effective actions) = some true ∨
      lastOf (tagged? tag) (effective actions) = none ∧ tag ∈ h.decision.tags.tags := by
  have last : decide (tag ∈ (h.applyAll actions).handoff.decision.tags.tags) =
      (lastOf (tagged? tag) (effective actions)).getD (decide (tag ∈ h.decision.tags.tags)) := by
    refine applyAll_last (fun h => decide (tag ∈ h.decision.tags.tags)) (fun applied => ?_)
      (.inr fun _ _ => rfl)
    cases does_of_apply applied with
    | addTags tags =>
      by_cases named : tag ∈ tags <;> simp [tagged?, mapDecision, TagSet.mem_insertAll, named]
    | removeTags tags =>
      by_cases named : tag ∈ tags <;> simp [tagged?, mapDecision, TagSet.mem_eraseAll, named]
    | _ => rfl
  rw [← decide_eq_true_iff (p := tag ∈ _), last]
  cases lastOf (tagged? tag) (effective actions) <;> simp

theorem applyAll_fallback : (h.applyAll actions).handoff.decision.routeToFallback = true ↔
    h.decision.routeToFallback = true ∨ ∃ reason, Action.routeToFallback reason ∈ actions := by
  have last : (h.applyAll actions).handoff.decision.routeToFallback =
      (lastOf fallback? actions).getD h.decision.routeToFallback := by
    rw [← lastOf_effective fun _ bad => (silent_of_bad bad).2.1]
    refine applyAll_last (·.decision.routeToFallback) (fun applied => ?_) (.inr fun _ _ => rfl)
    cases does_of_apply applied <;> rfl
  rw [last]
  cases taken : lastOf fallback? actions with
  | none =>
    have never : ¬ ∃ reason, Action.routeToFallback reason ∈ actions := by
      rintro ⟨reason, mem⟩
      cases lastOf_eq_none.mp taken _ mem
    rw [Option.getD_none, or_iff_left never]
  | some value =>
    obtain ⟨action, mem, writes⟩ := exists_of_lastOf taken
    cases action with
    | routeToFallback reason =>
      cases writes
      exact iff_of_true rfl (.inr ⟨reason, mem⟩)
    | _ => cases writes

theorem applyAll_fallbackReason : (h.applyAll actions).handoff.decision.fallbackReason =
    (lastOf fallbackReason? actions).or h.decision.fallbackReason := by
  rw [← lastOf_effective fun _ bad => (silent_of_bad bad).2.2, ← lastOf_map_some]
  refine applyAll_last (·.decision.fallbackReason) (fun applied => ?_) (.inr fun _ _ => rfl)
  cases does_of_apply applied with
  | routeToFallback reason => cases reason <;> rfl
  | _ => rfl

/-- A custom field is found as the last action wrote it that sets it. -/
theorem applyAll_customField (free : h.obstacle? = none) (key : String) :
    Keyed.find? key (h.applyAll actions).handoff.fields =
      (lastOf (customField? key) (effective actions)).or (Keyed.find? key h.fields) := by
  rw [← lastOf_map_some]
  refine applyAll_last (fun h => Keyed.find? key h.fields) (fun applied => ?_) (.inl free)
  cases does_of_apply applied with
  | setCustomField k value =>
    rw [find?_fields_withField, customField?]
    split <;> rfl
  | _ => rfl

/-- **Once a custom field is set there are custom fields**, and each is found as the last action
that sets it wrote it. -/
theorem applyAll_fields (sets : h.SetsFields actions) :
    ∃ fields, (h.applyAll actions).handoff.customFields? = some fields ∧ Keyed.Ascending fields ∧
      ∀ key, Keyed.find? key fields =
        (lastOf (customField? key) (effective actions)).or (Keyed.find? key h.fields) := by
  obtain ⟨free, key, value, mem⟩ := sets
  have found := applyAll_customField h actions free
  have written : lastOf (customField? key) (effective actions) ≠ none := by
    intro silent
    simpa [customField?] using lastOf_eq_none.mp silent _ mem
  -- The field that was set is found, so there are custom fields to find it in.
  cases present : (h.applyAll actions).handoff.customFields? with
  | none =>
    have nothing := found key
    rw [fields, present, Option.getD_none, Keyed.find?, eq_comm, Option.or_eq_none_iff] at nothing
    exact absurd nothing.1 written
  | some members =>
    have same : (h.applyAll actions).handoff.fields = members := by rw [fields, present]; rfl
    exact ⟨members, rfl, same ▸ (fields_canonical _).1, same ▸ found⟩

theorem applyAll_untouched (idle : ¬ h.SetsFields actions) :
    (h.applyAll actions).handoff.metadata.find? customFieldsName =
      h.metadata.find? customFieldsName := by
  refine applyAll_keeps (·.metadata.find? customFieldsName) fun action mem _ _ applied => ?_
  cases does_of_apply applied with
  | setCustomField key value =>
    obtain ⟨mem, taken⟩ := List.mem_filter.mp mem
    obtain ⟨good, free⟩ := refusal?_eq_none.mp (Option.isNone_iff_eq_none.mp taken)
    exact absurd ⟨free rfl, key, value, mem_effective.mpr ⟨mem, good⟩⟩ idle
  | _ => rfl

theorem applyAll_others {name : String} (other : name ≠ customFieldsName) :
    (h.applyAll actions).handoff.metadata.find? name = h.metadata.find? name := by
  refine applyAll_keeps (·.metadata.find? name) fun action _ _ _ applied => ?_
  cases does_of_apply applied with
  | setCustomField key value =>
    rw [withField, Attributes.find?, Attributes.insert, Keyed.find?_insert, if_neg other.symm]
    rfl
  | _ => rfl

end Places

/-- **The last writer wins**, place by place. -/
structure LastWriterWins (h : Handoff) (actions : List Action) (next : Handoff) : Prop where
  assignment : next.decision.assignment =
    (lastOf assignment? (effective actions)).or h.decision.assignment
  /-- A priority that is set always counts. -/
  priority : next.decision.priority = (lastOf priority? actions).or h.decision.priority
  /-- The last action that names a tag adds it, or none names it and it was there. -/
  tag : ∀ tag, tag ∈ next.decision.tags.tags ↔
    lastOf (tagged? tag) (effective actions) = some true ∨
      lastOf (tagged? tag) (effective actions) = none ∧ tag ∈ h.decision.tags.tags
  fallback : next.decision.routeToFallback = true ↔
    h.decision.routeToFallback = true ∨ ∃ reason, Action.routeToFallback reason ∈ actions
  fallbackReason : next.decision.fallbackReason =
    (lastOf fallbackReason? actions).or h.decision.fallbackReason
  /-- The rest of the decision is as it was. -/
  rest : next.decision.shouldHandoff = h.decision.shouldHandoff ∧
    next.decision.confidence = h.decision.confidence ∧ next.decision.reason = h.decision.reason ∧
    next.decision.triggerType = h.decision.triggerType ∧
    next.decision.triggerResults = h.decision.triggerResults
  /-- The custom fields are those that there were, updated name by name. -/
  customFields : h.SetsFields actions → ∃ fields, next.customFields? = some fields ∧
    Keyed.Ascending fields ∧ ∀ key, Keyed.find? key fields =
      (lastOf (customField? key) (effective actions)).or (Keyed.find? key h.fields)
  /-- They stay as they were, or what stands in their place does. -/
  untouched : ¬ h.SetsFields actions →
    next.metadata.find? customFieldsName = h.metadata.find? customFieldsName
  /-- The other metadata are as they were. -/
  others : ∀ name, name ≠ customFieldsName → next.metadata.find? name = h.metadata.find? name

theorem applyAll_wins (h : Handoff) (actions : List Action) :
    h.LastWriterWins actions (h.applyAll actions).handoff where
  assignment := applyAll_assignment h actions
  priority := applyAll_priority h actions
  tag := applyAll_tag h actions
  fallback := applyAll_fallback h actions
  fallbackReason := applyAll_fallbackReason h actions
  rest := by
    simpa only [Prod.mk.injEq] using h.applyAll_keeps
      (fun h => (h.decision.shouldHandoff, h.decision.confidence, h.decision.reason,
        h.decision.triggerType, h.decision.triggerResults))
      fun action (_ : action ∈ h.applicable actions) _ _ applied => by
        cases does_of_apply applied <;> rfl
  customFields := applyAll_fields h actions
  untouched := applyAll_untouched h actions
  others _ := applyAll_others h actions

/-! ## A second round -/

variable {final : Handoff}

/-- The custom fields are written once more as they stand, or left alone once more. -/
theorem LastWriterWins.customFields_settled (once : h.LastWriterWins actions next)
    (again : next.LastWriterWins actions final) (same : next.obstacle? = h.obstacle?) :
    final.metadata.find? customFieldsName = next.metadata.find? customFieldsName := by
  by_cases sets : next.SetsFields actions
  · obtain ⟨before, present, ascending, found⟩ := once.customFields ⟨same ▸ sets.1, sets.2⟩
    obtain ⟨after, present', ascending', found'⟩ := again.customFields sets
    have fixed : after = before := by
      refine Keyed.ext_of_find? ascending' ascending fun key => ?_
      rw [found', fields, present, Option.getD_some, found, ← Option.or_assoc, Option.or_self]
    rw [customFields?_eq_some.mp present, customFields?_eq_some.mp present', fixed]
  · exact again.untouched sets

/-- **The second round writes what stands there**, place by place, and a handoff is its places. -/
theorem LastWriterWins.settled (once : h.LastWriterWins actions next)
    (again : next.LastWriterWins actions final) (same : next.obstacle? = h.obstacle?) :
    final = next := by
  have assignment : final.decision.assignment = next.decision.assignment := by
    rw [again.assignment, once.assignment, ← Option.or_assoc, Option.or_self]
  have priority : final.decision.priority = next.decision.priority := by
    rw [again.priority, once.priority, ← Option.or_assoc, Option.or_self]
  have reason : final.decision.fallbackReason = next.decision.fallbackReason := by
    rw [again.fallbackReason, once.fallbackReason, ← Option.or_assoc, Option.or_self]
  have tags : final.decision.tags = next.decision.tags := by
    refine TagSet.ext_of_mem fun tag => ?_
    rw [again.tag, once.tag]
    tauto
  have fallback : final.decision.routeToFallback = next.decision.routeToFallback := by
    rw [Bool.eq_iff_iff, again.fallback, once.fallback]
    tauto
  have metadata : final.metadata = next.metadata := by
    refine Attributes.ext (Keyed.ext_of_find? final.metadata.ascending next.metadata.ascending
      fun name => ?_)
    by_cases custom : name = customFieldsName
    · exact custom ▸ once.customFields_settled again same
    · exact again.others name custom
  -- These were all the places that an action writes to.
  obtain ⟨shouldHandoff, confidence, cause, triggerType, triggerResults⟩ := again.rest
  obtain ⟨⟨⟩, m⟩ := final
  obtain ⟨⟨⟩, n⟩ := next
  simp_all

/-- An obstacle is there after a list of actions if it was before. -/
theorem applyAll_obstacle (h : Handoff) (actions : List Action) :
    (h.applyAll actions).handoff.obstacle? = h.obstacle? :=
  applyAll_keeps obstacle? fun _ _ _ _ applied => obstacle?_apply applied

/-- **The last writer wins in every place**, after any list of actions, and carrying out the list
once more changes nothing: the same actions are applied, and the same are skipped. -/
theorem applyAll_lastWriter (h : Handoff) (actions : List Action) :
    h.LastWriterWins actions (h.applyAll actions).handoff ∧
      (h.applyAll actions).handoff.applyAll actions = h.applyAll actions := by
  have same : (h.applyAll actions).handoff.obstacle? = h.obstacle? := applyAll_obstacle h actions
  have refusal : (h.applyAll actions).handoff.refusal? = h.refusal? :=
    funext fun action => by simp only [refusal?, same]
  have once := applyAll_wins h actions
  have settled := once.settled (applyAll_wins _ actions) same
  have carried := h.applyAll_carries actions
  have again := (h.applyAll actions).handoff.applyAll_carries actions
  have applied : ((h.applyAll actions).handoff.applyAll actions).applied =
      (h.applyAll actions).applied := by
    rw [again.applied, carried.applied, applicable, applicable, refusal]
  have skipped : ((h.applyAll actions).handoff.applyAll actions).skipped =
      (h.applyAll actions).skipped := by
    rw [again.skipped, carried.skipped, refused, refused, refusal]
  refine ⟨once, ?_⟩
  calc (h.applyAll actions).handoff.applyAll actions
      = ⟨((h.applyAll actions).handoff.applyAll actions).handoff,
          ((h.applyAll actions).handoff.applyAll actions).applied,
          ((h.applyAll actions).handoff.applyAll actions).skipped⟩ := rfl
    _ = h.applyAll actions := by rw [settled, applied, skipped]

/-- An assignment to nobody does not count, and a tag that is taken away may come back. -/
example :
    let done := (applyAll default [.assignAgent "a", .addTags ["b", "c"], .assignQueue " ",
      .removeTags ["c", "b"], .addTags ["b"]]).handoff.decision
    done.assignment = some (.agent "a") ∧ done.tags.tags = ["b"] := by
  decide

end Handoff

end Escalation
