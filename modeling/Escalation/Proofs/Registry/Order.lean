import Escalation.Registry
import Mathlib.Data.List.Basic

/-!
# The order of evaluation

`arrange` puts registered rules in the order in which they are evaluated. Two laws say what that
order is. It depends only on which rules are there, with their numbers, and not on the order in
which they are listed (`arrange_congr`), so rules may be added, replaced and removed in the arranged
list as well as in the order of registration. And if they are listed in the order of registration,
the arranged rules are the stable sort of the list by descending priority (`rules_arrange`): the
numbers have then done their work and may be forgotten.

The laws need that no two rules have one number. Which registries keep to that is not the matter of
this module.
-/

namespace Escalation

namespace RegisteredRule

variable {a b c : RegisteredRule}

theorem precedes_iff : a.precedes b = true ↔
    b.rule.priority < a.rule.priority ∨
      a.rule.priority = b.rule.priority ∧ a.sequence < b.sequence := by
  simp [precedes]

theorem precedes_trans (hab : a.precedes b = true) (hbc : b.precedes c = true) :
    a.precedes c = true := by
  rw [precedes_iff] at *
  omega

theorem precedes_asymm (hab : a.precedes b = true) (hba : b.precedes a = true) : False := by
  rw [precedes_iff] at *
  omega

/-- Of two rules with different numbers one precedes the other. -/
theorem precedes_of_not (ne : a.sequence ≠ b.sequence) (h : ¬ a.precedes b = true) :
    b.precedes a = true := by
  rw [precedes_iff] at *
  omega

end RegisteredRule

/-! ## Which rules are arranged -/

theorem place_perm (entry : RegisteredRule) :
    ∀ entries, (place entry entries).Perm (entry :: entries)
  | [] => List.Perm.refl _
  | e :: entries => by
    unfold place
    split
    · exact List.Perm.refl _
    · exact ((place_perm entry entries).cons e).trans (List.Perm.swap entry e entries)

/-- Arranging loses no rule and adds none. -/
theorem arrange_perm (entries : List RegisteredRule) : (arrange entries).Perm entries := by
  induction entries with
  | nil => exact List.Perm.refl _
  | cons e entries ih => exact (place_perm e _).trans (ih.cons e)

/-- No two of the rules have one number. -/
def DistinctNumbers (entries : List RegisteredRule) : Prop :=
  (entries.map (·.sequence)).Nodup

theorem DistinctNumbers.perm {entries others : List RegisteredRule} (h : DistinctNumbers entries)
    (p : others.Perm entries) : DistinctNumbers others :=
  (p.map _).nodup_iff.mpr h

/-! ## Their order -/

theorem place_pairwise {entry : RegisteredRule} :
    ∀ {entries}, entries.Pairwise (·.precedes ·) →
      (∀ e ∈ entries, entry.sequence ≠ e.sequence) →
      (place entry entries).Pairwise (·.precedes ·)
  | [], _, _ => List.pairwise_singleton _ _
  | e :: entries, sorted, ne => by
    obtain ⟨first, rest⟩ := List.pairwise_cons.mp sorted
    unfold place
    split
    · next before =>
      refine List.pairwise_cons.mpr ⟨fun d hd => ?_, sorted⟩
      rcases List.mem_cons.mp hd with rfl | hd
      · exact before
      · exact RegisteredRule.precedes_trans before (first d hd)
    · next not =>
      refine List.pairwise_cons.mpr ⟨fun d hd => ?_, place_pairwise rest fun d hd =>
        ne d (List.mem_cons_of_mem _ hd)⟩
      rcases List.mem_cons.mp ((place_perm entry entries).mem_iff.mp hd) with rfl | hd
      · exact RegisteredRule.precedes_of_not (ne e List.mem_cons_self) not
      · exact first d hd

/-- **Arranged rules are in order**: each precedes all those behind it. -/
theorem arrange_pairwise {entries : List RegisteredRule} (h : DistinctNumbers entries) :
    (arrange entries).Pairwise (·.precedes ·) := by
  induction entries with
  | nil => exact List.Pairwise.nil
  | cons e entries ih =>
    obtain ⟨fresh, rest⟩ := List.nodup_cons.mp h
    refine place_pairwise (ih rest) fun d hd eq => fresh ?_
    exact List.mem_map.mpr ⟨d, (arrange_perm entries).mem_iff.mp hd, eq.symm⟩

/-- Rules that are in order are determined by which rules they are. -/
theorem eq_of_precedes_perm {entries others : List RegisteredRule}
    (he : entries.Pairwise (·.precedes ·)) (ho : others.Pairwise (·.precedes ·))
    (p : entries.Perm others) : entries = others :=
  p.eq_of_pairwise (fun _ _ _ _ hab hba => (RegisteredRule.precedes_asymm hab hba).elim) he ho

/-- **The order in which rules are listed does not count.** -/
theorem arrange_congr {entries others : List RegisteredRule} (h : DistinctNumbers others)
    (p : entries.Perm others) : arrange entries = arrange others :=
  eq_of_precedes_perm (arrange_pairwise (h.perm p)) (arrange_pairwise h)
    ((arrange_perm entries).trans (p.trans (arrange_perm others).symm))

/-- Rules are in order as well after some have been dropped. -/
theorem filter_arrange {entries : List RegisteredRule} (h : DistinctNumbers entries)
    (keep : RegisteredRule → Bool) : (arrange entries).filter keep = arrange (entries.filter keep) :=
  eq_of_precedes_perm ((arrange_pairwise h).filter keep)
    (arrange_pairwise (h.sublist (List.filter_sublist.map _)))
    (((arrange_perm entries).filter keep).trans (arrange_perm _).symm)

/-! ## A stable sort -/

/-- Rules of higher priority come first. -/
def byPriority (a b : Rule) : Bool :=
  b.priority ≤ a.priority

theorem byPriority_iff {a b : Rule} : byPriority a b = true ↔ b.priority ≤ a.priority :=
  decide_eq_true_iff

theorem byPriority_trans (a b c : Rule) (hab : byPriority a b = true)
    (hbc : byPriority b c = true) : byPriority a c = true := by
  rw [byPriority_iff] at *
  omega

theorem byPriority_total (a b : Rule) : (byPriority a b || byPriority b a) = true := by
  rw [Bool.or_eq_true, byPriority_iff, byPriority_iff]
  omega

/-- A rule passes over those that precede it and stops before those it precedes. -/
theorem place_append {entry : RegisteredRule} {before behind : List RegisteredRule}
    (hbefore : ∀ e ∈ before, ¬ entry.precedes e = true)
    (hbehind : ∀ e ∈ behind, entry.precedes e = true) :
    place entry (before ++ behind) = before ++ entry :: behind := by
  induction before with
  | nil =>
    cases behind with
    | nil => rfl
    | cons e behind => exact if_pos (hbehind e List.mem_cons_self)
  | cons e before ih =>
    rw [List.cons_append, place, if_neg (hbefore e List.mem_cons_self),
      ih fun d hd => hbefore d (List.mem_cons_of_mem _ hd)]
    rfl

/-- **Rules listed in the order of registration are arranged by a stable sort**: the induction
places the rule registered first, which goes before its equals. -/
theorem arrange_eq_mergeSort {entries : List RegisteredRule}
    (h : entries.Pairwise (·.sequence < ·.sequence)) :
    arrange entries = entries.mergeSort fun a b => byPriority a.rule b.rule := by
  have trans := fun a b c : RegisteredRule => byPriority_trans a.rule b.rule c.rule
  have total := fun a b : RegisteredRule => byPriority_total a.rule b.rule
  induction entries with
  | nil => exact (List.mergeSort_nil).symm
  | cons e entries ih =>
    obtain ⟨first, rest⟩ := List.pairwise_cons.mp h
    obtain ⟨before, behind, whole, tail, higher⟩ := List.mergeSort_cons trans total e entries
    have sorted := List.pairwise_mergeSort trans total (e :: entries)
    have members : ∀ d, d ∈ before ++ behind → d ∈ entries := fun d hd =>
      List.mem_mergeSort.mp (tail ▸ hd)
    rw [whole] at sorted ⊢
    have lower := (List.pairwise_cons.mp (List.pairwise_append.mp sorted).2.1).1
    change place e (arrange entries) = _
    rw [ih rest, tail]
    refine place_append (fun d hd => ?_) fun d hd => ?_
    · have above := higher d hd
      have later := first d (members d (List.mem_append_left _ hd))
      simp only [byPriority, Bool.not_eq_true', decide_eq_false_iff_not] at above
      rw [RegisteredRule.precedes_iff]
      omega
    · have below := lower d hd
      have later := first d (members d (List.mem_append_right _ hd))
      simp only [byPriority, decide_eq_true_eq] at below
      rw [RegisteredRule.precedes_iff]
      omega

/-- The arranged rules are the stable sort of the rules. -/
theorem rules_arrange {entries : List RegisteredRule}
    (h : entries.Pairwise (·.sequence < ·.sequence)) :
    (arrange entries).map (·.rule) = (entries.map (·.rule)).mergeSort byPriority := by
  rw [arrange_eq_mergeSort h]
  exact List.map_mergeSort fun _ _ _ _ => rfl

end Escalation
