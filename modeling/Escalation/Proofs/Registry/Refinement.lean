import Escalation.Proofs.Registry.Invariant

/-!
# A registry is a list of registration

What a client sees of a registry is the plain list of registration, sorted stably by descending
priority (`Registers.order`). Numbers and versions are how the registry does it and can be
forgotten: a change succeeds exactly if the plain list admits it, and the list then changes in one
place (`Registers.tracks`).

What updates and removals do to the order of evaluation follows. An update that leaves a rule its
priority, or gives it back after another update has changed it, puts the new rule exactly where the
old one stood; a rule that is removed and added again goes behind those of its priority (`Steady`).
Both are facts about the plain list, where an update replaces in place and an addition comes last,
carried over the sort: it commutes with what keeps priorities, and it keeps the order of each
priority (`StablySorted.ties`).
-/

namespace Escalation

/-! ## Stable sorts -/

/-- Rules are a list of rules sorted stably by descending priority: none is lost or added, and those
of one priority stand in the order of the list. -/
structure StablySorted (rules order : List Rule) : Prop where
  perm : order.Perm rules
  descending : order.Pairwise fun a b => b.priority ≤ a.priority
  ties : ∀ priority : Int,
    order.filter (·.priority == priority) = rules.filter (·.priority == priority)

/-- **The library's sort is a stable one**: the rules of one priority are a sorted part of the list,
so they are a part of the sorted list, and there are no others of that priority. -/
theorem stablySorted_mergeSort (rules : List Rule) :
    StablySorted rules (rules.mergeSort byPriority) := by
  have perm := List.mergeSort_perm rules byPriority
  refine ⟨perm, ?_, fun priority => ?_⟩
  · exact (List.pairwise_mergeSort byPriority_trans byPriority_total rules).imp byPriority_iff.mp
  · have equals : (rules.filter (·.priority == priority)).Pairwise (byPriority · ·) := by
      refine List.pairwise_of_forall_mem_list fun a ha b hb => byPriority_iff.mpr ?_
      rw [beq_iff_eq.mp (List.mem_filter.mp ha).2, beq_iff_eq.mp (List.mem_filter.mp hb).2]
    have part : (rules.filter (·.priority == priority)).Sublist (rules.mergeSort byPriority) :=
      List.sublist_mergeSort byPriority_trans byPriority_total equals List.filter_sublist
    have filtered := part.filter (·.priority == priority)
    rw [List.filter_filter, List.filter_congr fun _ _ => Bool.and_self _] at filtered
    exact (filtered.eq_of_length (perm.filter _).length_eq.symm).symm

namespace Registry

variable {r next : Registry} {rules : List Rule} {c : Change} {old away rule : Rule}

/-! ## The registry and the plain list -/

/-- **The order of evaluation is the plain list, sorted.** -/
theorem Registers.order (h : r.Registers rules) : r.active.rules = rules.mergeSort byPriority := by
  obtain ⟨entries, numbering, rfl⟩ := h
  rw [RuleSet.rules, numbering.active, rules_arrange numbering.ascending]

/-- A change that succeeds was accepted, and makes what an accepted change makes. -/
theorem accepted_of_apply (ok : r.apply c = .ok next) :
    c.accepted r.active.rules = true ∧ next = c.perform r := by
  cases h : c.accepted r.active.rules with
  | true =>
    rw [apply_of_accepted h] at ok
    exact ⟨rfl, (Except.ok.inj ok).symm⟩
  | false =>
    obtain ⟨cause, failed⟩ := apply_of_refused h
    rw [failed] at ok
    cases ok

/-- What a change makes that succeeds registers what the plain list records. -/
theorem Registers.apply (h : r.Registers rules) (ok : r.apply c = .ok next) :
    next.Registers (c.record rules) := by
  rw [(accepted_of_apply ok).2]
  exact h.perform c

/-- A change of a registry goes in step with the plain list: it succeeds where the list admits it,
the list then records it, and a change that fails leaves the list alone. -/
structure Tracks (r : Registry) (rules : List Rule) (c : Change) : Prop where
  admits : (∃ next, r.apply c = .ok next) ↔ c.accepted rules = true
  records : ∀ next, r.apply c = .ok next → register rules c = c.record rules
  ignores : ∀ cause, r.apply c = .error cause → register rules c = rules

theorem Registers.tracks (h : r.Registers rules) (c : Change) : r.Tracks rules c := by
  have accepted : c.accepted r.active.rules = c.accepted rules := accepted_perm h.perm c
  refine ⟨⟨?_, ?_⟩, ?_, ?_⟩
  · rintro ⟨next, ok⟩
    rw [← accepted]
    exact (accepted_of_apply ok).1
  · intro admitted
    rw [← accepted] at admitted
    exact ⟨_, apply_of_accepted admitted⟩
  · intro next ok
    rw [register, ← accepted, (accepted_of_apply ok).1, if_pos rfl]
  · intro cause failed
    cases admitted : c.accepted r.active.rules with
    | true =>
      rw [apply_of_accepted admitted] at failed
      cases failed
    | false => rw [register, ← accepted, admitted, if_neg Bool.false_ne_true]

/-! ## Updates and removals -/

/-- An update that leaves a rule its priority may be made before or after sorting. -/
theorem mergeSort_record_update (admissible : Admissible rules) (mem : old ∈ rules)
    (same : rule.priority = old.priority) :
    ((Change.update old.name rule).record rules).mergeSort byPriority =
      (Change.update old.name rule).record (rules.mergeSort byPriority) := by
  have keeps : ∀ r ∈ rules, (if r.name == old.name then rule else r).priority = r.priority := by
    intro r hr
    split
    · next named => rw [admissible.eq_of_name hr mem (beq_iff_eq.mp named), same]
    · rfl
  refine (List.map_mergeSort fun a ha b hb => ?_).symm
  rw [byPriority, byPriority, keeps a ha, keeps b hb]

/-- Of two updates of one rule the second counts. -/
theorem record_update_update {name : String} (h : (Change.update name away).accepted rules = true) :
    (Change.update away.name rule).record ((Change.update name away).record rules) =
      (Change.update name rule).record rules := by
  simp only [Change.accepted, Bool.and_eq_true, Bool.or_eq_true, beq_iff_eq, not_named_iff] at h
  obtain ⟨-, free⟩ := h
  simp only [Change.record, List.map_map]
  refine List.map_congr_left fun r hr => ?_
  simp only [Function.comp]
  by_cases named : r.name = name
  · simp only [named, BEq.rfl, if_true]
  · have other : r.name ≠ away.name := by
      rcases free with same | free
      · rwa [same]
      · exact fun eq => free (eq ▸ List.mem_map_of_mem hr)
    simp only [beq_iff_eq, named, other, if_false]

/-- **What changes of one rule do to the order of evaluation.** -/
structure Steady (r : Registry) : Prop where
  /-- An update that leaves a rule its priority leaves every rule its place. -/
  updated : ∀ old ∈ r.active.rules, ∀ rule next, rule.priority = old.priority →
    r.apply (.update old.name rule) = .ok next →
      next.active.rules = (Change.update old.name rule).record r.active.rules
  /-- So do two updates of which the second gives the rule its priority back. -/
  restored : ∀ old ∈ r.active.rules, ∀ away rule between next, rule.priority = old.priority →
    r.apply (.update old.name away) = .ok between →
    between.apply (.update away.name rule) = .ok next →
      next.active.rules = (Change.update old.name rule).record r.active.rules
  /-- A rule that is added after a removal, be it the same, stands behind those of its priority. -/
  readded : ∀ name rule between next, r.apply (.remove name) = .ok between →
    between.apply (.add rule) = .ok next →
      next.active.rules.filter (·.priority == rule.priority) =
        ((Change.remove name).record r.active.rules).filter (·.priority == rule.priority) ++ [rule]

theorem Registers.steady (h : r.Registers rules) (admissible : Admissible rules) : r.Steady := by
  refine ⟨?_, ?_, ?_⟩
  · intro old mem rule next same ok
    have mem : old ∈ rules := h.perm.mem_iff.mp mem
    rw [(h.apply ok).order, h.order, mergeSort_record_update admissible mem same]
  · intro old mem away rule between next same first second
    have mem : old ∈ rules := h.perm.mem_iff.mp mem
    have admitted : (Change.update old.name away).accepted rules = true :=
      (h.tracks _).admits.mp ⟨between, first⟩
    rw [((h.apply first).apply second).order, h.order, record_update_update admitted,
      mergeSort_record_update admissible mem same]
  · intro name rule between next removed added
    have ties := (stablySorted_mergeSort rules).ties rule.priority
    have own : [rule].filter (·.priority == rule.priority) = [rule] :=
      List.filter_cons_of_pos BEq.rfl
    rw [((h.apply removed).apply added).order, (stablySorted_mergeSort _).ties, h.order]
    simp only [Change.record, List.filter_append, own, List.append_cancel_right_eq]
    rw [List.filter_comm, ← ties, List.filter_comm]

/-- **A registry refines the plain list.** After every run of changes the rules in the order of
evaluation are the plain list sorted stably by descending priority, with no rule lost and none
twice; the next change goes in step with the list; and what updates and removals do to the order is
what they do to the list. -/
theorem afterAll_refines (changes : List Change) :
    (empty.afterAll changes).active.rules = (registered changes).mergeSort byPriority ∧
      StablySorted (registered changes) (empty.afterAll changes).active.rules ∧
      ((registered changes).map (·.name)).Nodup ∧
      (∀ c, (empty.afterAll changes).Tracks (registered changes) c ∧
        registered (changes ++ [c]) = register (registered changes) c) ∧
      (empty.afterAll changes).Steady := by
  have registers := afterAll_registers changes
  have admissible := admissible_registered changes
  refine ⟨registers.order, ?_, admissible.names, fun c => ⟨registers.tracks c, ?_⟩,
    registers.steady admissible⟩
  · rw [registers.order]
    exact stablySorted_mergeSort _
  · exact List.foldl_append

/-- A rule that goes up and comes back stands where it stood, and a rule that was taken out in
between stands last. -/
example :
    (empty.afterAll [.add { name := "a" }, .add { name := "b" }, .add { name := "c" },
      .update "b" { name := "b", priority := 9 }, .remove "a", .add { name := "a" },
      .update "b" { name := "b" }]).active.rules.map (·.name) = ["b", "c", "a"] := by
  decide

end Registry

end Escalation
