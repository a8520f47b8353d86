import Escalation.Proofs.Number.Order
import Escalation.Proofs.Value.Part
import Escalation.Rule.Match

/-!
# Sameness

Values are compared number by number, so comparing is symmetric and transitive, and the values that
are the same as themselves are those whose numbers stand in order (`Value.sameness`).

`Sameness` is this triple of laws for any comparison. It goes from the parts of a record to the
record (`Sameness.both`, `Sameness.on`) and from items to lists (`Sameness.all`), so what is made of
values has it with the property that all values in it are ordered.
-/

namespace Escalation

/-- **A comparison is symmetric and transitive**, and what has the property is the same as itself,
and nothing else is. -/
structure Sameness {α : Type} (same : α → α → Bool) (p : α → Prop) : Prop where
  symm : ∀ {a b}, same a b = true → same b a = true
  trans : ∀ {a b c}, same a b = true → same b c = true → same a c = true
  self_iff : ∀ {a}, same a a = true ↔ p a

namespace Sameness

variable {α β : Type} {same other : α → α → Bool} {p q : α → Prop}

theorem beq [BEq α] [LawfulBEq α] : Sameness (fun a b : α => a == b) fun _ => True where
  symm := BEq.symm
  trans := BEq.trans
  self_iff := iff_of_true BEq.rfl trivial

theorem both (h : Sameness same p) (h' : Sameness other q) :
    Sameness (fun a b => same a b && other a b) fun a => p a ∧ q a where
  symm := by
    simp only [Bool.and_eq_true]
    exact fun ⟨l, r⟩ => ⟨h.symm l, h'.symm r⟩
  trans := by
    simp only [Bool.and_eq_true]
    exact fun ⟨l, r⟩ ⟨l', r'⟩ => ⟨h.trans l l', h'.trans r r'⟩
  self_iff := by
    simp only [Bool.and_eq_true, h.self_iff, h'.self_iff, implies_true]

theorem on (h : Sameness same p) (f : β → α) :
    Sameness (fun a b => same (f a) (f b)) fun a => p (f a) :=
  ⟨h.symm, h.trans, h.self_iff⟩

theorem congr (h : Sameness same p) (iff : ∀ a, p a ↔ q a) : Sameness same q :=
  ⟨h.symm, h.trans, h.self_iff.trans (iff _)⟩

/-- **Lists are the same item by item.** -/
theorem all (h : Sameness same p) : Sameness (RuleTrace.sameAll same) fun as => ∀ a ∈ as, p a where
  symm {as} := by
    induction as with
    | nil =>
      intro bs h
      cases bs with
      | nil => rfl
      | cons b bs => cases h
    | cons a as ih =>
      intro bs
      cases bs with
      | nil => exact id
      | cons b bs =>
        simp only [RuleTrace.sameAll, Bool.and_eq_true]
        exact fun ⟨first, rest⟩ => ⟨h.symm first, ih rest⟩
  trans {as} := by
    induction as with
    | nil =>
      intro bs cs h h'
      cases bs with
      | nil => exact h'
      | cons b bs => cases h
    | cons a as ih =>
      intro bs cs
      cases bs with
      | nil => exact nofun
      | cons b bs =>
        cases cs with
        | nil => exact fun _ => nofun
        | cons c cs =>
          simp only [RuleTrace.sameAll, Bool.and_eq_true]
          exact fun ⟨first, rest⟩ ⟨first', rest'⟩ => ⟨h.trans first first', ih rest rest'⟩
  self_iff {as} := by
    induction as with
    | nil => exact iff_of_true rfl (List.forall_mem_nil p)
    | cons a as ih =>
      rw [RuleTrace.sameAll, Bool.and_eq_true, h.self_iff, ih, List.forall_mem_cons]

end Sameness

namespace Value

/-! ## Values -/

mutual
theorem same_symm : (v w : Value) → v.same w = true → w.same v = true
  | .null, w, h => by cases w <;> first | rfl | cases h
  | .bool a, w, h => by cases w with | bool b => exact BEq.symm h | _ => cases h
  | .number x, w, h => by cases w with | number y => exact BEq.symm h | _ => cases h
  | .text s, w, h => by cases w with | text t => exact BEq.symm h | _ => cases h
  | .list items, w, h => by
    cases w with | list others => exact sameItems_symm items others h | _ => cases h
  | .object members, w, h => by
    cases w with | object others => exact sameMembers_symm members others h | _ => cases h
termination_by structural v => v
theorem sameItems_symm : (items others : List Value) → sameItems items others = true →
    sameItems others items = true
  | [], [], _ => rfl
  | item :: items, other :: others, h => by
    rw [sameItems, Bool.and_eq_true] at h ⊢
    exact ⟨same_symm item other h.1, sameItems_symm items others h.2⟩
  | [], _ :: _, h | _ :: _, [], h => nomatch h
termination_by structural items => items
theorem sameMembers_symm : (members others : List (String × Value)) →
    sameMembers members others = true → sameMembers others members = true
  | [], [], _ => rfl
  | (_, value) :: members, (_, other) :: others, h => by
    rw [sameMembers, Bool.and_eq_true, Bool.and_eq_true] at h ⊢
    exact ⟨⟨BEq.symm h.1.1, same_symm value other h.1.2⟩, sameMembers_symm members others h.2⟩
  | [], _ :: _, h | _ :: _, [], h => nomatch h
termination_by structural members => members
end

mutual
theorem same_trans : (v w u : Value) → v.same w = true → w.same u = true → v.same u = true
  | .null, w, u, h, h' => by
    cases w with | null => exact h' | _ => cases h
  | .bool a, w, u, h, h' => by
    cases w with
    | bool b => cases u with | bool c => exact BEq.trans h h' | _ => cases h'
    | _ => cases h
  | .number x, w, u, h, h' => by
    cases w with
    | number y => cases u with | number z => exact BEq.trans h h' | _ => cases h'
    | _ => cases h
  | .text s, w, u, h, h' => by
    cases w with
    | text t => cases u with | text r => exact BEq.trans h h' | _ => cases h'
    | _ => cases h
  | .list items, w, u, h, h' => by
    cases w with
    | list others =>
      cases u with | list more => exact sameItems_trans items others more h h' | _ => cases h'
    | _ => cases h
  | .object members, w, u, h, h' => by
    cases w with
    | object others =>
      cases u with | object more => exact sameMembers_trans members others more h h' | _ => cases h'
    | _ => cases h
termination_by structural v => v
theorem sameItems_trans : (items others more : List Value) → sameItems items others = true →
    sameItems others more = true → sameItems items more = true
  | [], [], _, _, h' => h'
  | item :: items, other :: others, third :: more, h, h' => by
    rw [sameItems, Bool.and_eq_true] at h h' ⊢
    exact ⟨same_trans item other third h.1 h'.1, sameItems_trans items others more h.2 h'.2⟩
  | [], _ :: _, _, h, _ | _ :: _, [], _, h, _ => nomatch h
  | _ :: _, _ :: _, [], _, h' => nomatch h'
termination_by structural items => items
theorem sameMembers_trans : (members others more : List (String × Value)) →
    sameMembers members others = true → sameMembers others more = true →
      sameMembers members more = true
  | [], [], _, _, h' => h'
  | (_, value) :: members, (_, other) :: others, (_, third) :: more, h, h' => by
    rw [sameMembers, Bool.and_eq_true, Bool.and_eq_true] at h h' ⊢
    exact ⟨⟨BEq.trans h.1.1 h'.1.1, same_trans value other third h.1.2 h'.1.2⟩,
      sameMembers_trans members others more h.2 h'.2⟩
  | [], _ :: _, _, h, _ | _ :: _, [], _, h, _ => nomatch h
  | _ :: _, _ :: _, [], _, h' => nomatch h'
termination_by structural members => members
end

mutual
theorem same_self_iff : (v : Value) → (v.same v = true ↔ v.Ordered)
  | .null => iff_of_true rfl (ordered_plain nofun nofun nofun)
  | .bool b => iff_of_true (beq_self_eq_true b) (ordered_plain nofun nofun nofun)
  | .number x => by rw [same, Number.beq_self_eq, Bool.not_eq_true', ordered_number]
  | .text s => iff_of_true (beq_self_eq_true s) (ordered_plain nofun nofun nofun)
  | .list items => (sameItems_self_iff items).trans ordered_list.symm
  | .object members => (sameMembers_self_iff members).trans ordered_object.symm
termination_by structural v => v
theorem sameItems_self_iff : (items : List Value) →
    (sameItems items items = true ↔ ∀ item ∈ items, item.Ordered)
  | [] => iff_of_true rfl (List.forall_mem_nil _)
  | item :: items => by
    rw [sameItems, Bool.and_eq_true, same_self_iff item, sameItems_self_iff items,
      List.forall_mem_cons]
termination_by structural items => items
theorem sameMembers_self_iff : (members : List (String × Value)) →
    (sameMembers members members = true ↔ ∀ e ∈ members, e.2.Ordered)
  | [] => iff_of_true rfl (List.forall_mem_nil _)
  | (name, value) :: members => by
    rw [sameMembers, beq_self_eq_true, Bool.true_and, Bool.and_eq_true, same_self_iff value,
      sameMembers_self_iff members, List.forall_mem_cons]
termination_by structural members => members
end

/-- **Values are compared symmetrically and transitively**, and the ordered ones are those that are
the same as themselves. -/
theorem sameness : Sameness same Ordered :=
  ⟨same_symm _ _, same_trans _ _ _, same_self_iff _⟩

theorem sameness_option : Sameness sameOption fun v? => ∀ v ∈ v?, v.Ordered where
  symm {a b} h := by
    cases a <;> cases b <;> first | exact sameness.symm h | exact h
  trans {a b c} h h' := by
    cases a <;> cases b <;> cases c <;> first | exact sameness.trans h h' | exact h' | cases h
  self_iff {a} := by
    cases a with
    | none => exact iff_of_true rfl nofun
    | some v => simp [sameOption, sameness.self_iff]

end Value

end Escalation
