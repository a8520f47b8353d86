import Escalation.Proofs.Keyed
import Escalation.Value.Attributes

/-!
# Values that hold the same

`Value.Alike` compares two values as what they hold: numbers by their bits, lists place by place,
objects name by name. It never looks at the order in which an object lists its members, so two
objects that were built in different orders are alike.

On canonical values, being alike is being equal (`Value.Alike.eq`): there the order of the members
is a function of the members. Attributes are canonical by type, so `Attributes.alike_iff` needs no
premise. A number is determined by its bits (`eq_of_toBits`), since there is one number that is not
a number.

Values that are alike as they come, with each name once in an object, are the same value once they
are canonical (`Value.Alike.canonical_eq`), so maps that are filled with the same entries in
different orders are one map at every depth (`Attributes.ofList_eq_of_alike`).
-/

namespace Escalation

/-- A double is determined by its bits. -/
theorem eq_of_toBits {x y : Float} (h : x.toBits = y.toBits) : x = y := by
  obtain ⟨⟨bits, valid⟩⟩ := x
  obtain ⟨⟨others, valid'⟩⟩ := y
  cases (show bits = others from h)
  rfl

namespace Value

/-- **Two values hold the same**: numbers bit for bit, items place by place, members name by name
in whatever order they stand. -/
inductive Alike : Value → Value → Prop
  | null : Alike .null .null
  | bool (b : Bool) : Alike (.bool b) (.bool b)
  | number {x y : Float} (bits : x.toBits = y.toBits) : Alike (.number x) (.number y)
  | text (s : String) : Alike (.text s) (.text s)
  | list {items others : List Value} (length : items.length = others.length)
      (each : ∀ (i : Nat) (h : i < items.length) (h' : i < others.length),
        Alike items[i] others[i]) :
      Alike (.list items) (.list others)
  | object {members others : List (String × Value)}
      (names : ∀ name, (Keyed.find? name members).isSome = (Keyed.find? name others).isSome)
      (each : ∀ name v w, Keyed.find? name members = some v → Keyed.find? name others = some w →
        Alike v w) :
      Alike (.object members) (.object others)

mutual
/-- Every value is alike to itself. -/
theorem Alike.refl : (v : Value) → v.Alike v
  | .null => .null
  | .bool b => .bool b
  | .number _ => .number rfl
  | .text s => .text s
  | .list items => .list rfl fun _ h _ => alike_items items _ (List.getElem_mem h)
  | .object members => by
    refine .object (fun _ => rfl) fun name v w hv hw => ?_
    cases hv.symm.trans hw
    exact alike_members members _ (Keyed.mem_of_find? hv)
termination_by structural v => v
theorem alike_items : (items : List Value) → ∀ v ∈ items, v.Alike v
  | [], _, h => nomatch h
  | item :: items, v, h => by
    rcases List.mem_cons.mp h with eq | h
    · exact eq ▸ Alike.refl item
    · exact alike_items items v h
termination_by structural items => items
theorem alike_members : (members : List (String × Value)) → ∀ e ∈ members, e.2.Alike e.2
  | [], _, h => nomatch h
  | (_, value) :: members, e, h => by
    rcases List.mem_cons.mp h with eq | h
    · exact eq ▸ Alike.refl value
    · exact alike_members members e h
termination_by structural members => members
end

theorem canonicalItems_iff (items : List Value) :
    CanonicalItems items ↔ ∀ v ∈ items, v.Canonical := by
  induction items with
  | nil => simp [CanonicalItems]
  | cons item items ih => simp [CanonicalItems, ih]

/-- **Canonical values that are alike are equal.** Only an object needs that they are canonical:
its members are in order, so they are determined by what the names find. -/
theorem Alike.eq {v w : Value} (h : v.Alike w) : v.Canonical → w.Canonical → v = w := by
  induction h with
  | null | bool | text => exact fun _ _ => rfl
  | number bits => exact fun _ _ => congrArg Value.number (eq_of_toBits bits)
  | @list items others length each ih =>
    intro cv cw
    have cv := (canonicalItems_iff items).mp cv
    have cw := (canonicalItems_iff others).mp cw
    refine congrArg Value.list (List.ext_getElem length fun i h h' => ?_)
    exact ih i h h' (cv _ (List.getElem_mem h)) (cw _ (List.getElem_mem h'))
  | @object members others names each ih =>
    intro ⟨asc, cv⟩ ⟨asc', cw⟩
    have cv := (canonicalMembers_iff members).mp cv
    have cw := (canonicalMembers_iff others).mp cw
    refine congrArg Value.object (Keyed.ext_of_find? asc asc' fun name => ?_)
    have both := names name
    cases hv : Keyed.find? name members with
    | none =>
      rw [hv] at both
      exact (Option.isNone_iff_eq_none.mp (by simpa using both.symm)).symm
    | some a =>
      rw [hv] at both
      obtain ⟨b, hw⟩ := Option.isSome_iff_exists.mp both.symm
      rw [hw, ih name a b hv hw (cv _ (Keyed.mem_of_find? hv)) (cw _ (Keyed.mem_of_find? hw))]

/-! ## Whatever order the members came in -/

mutual
/-- No object in the value lists a name twice. -/
def Distinct : Value → Prop
  | .list items => DistinctItems items
  | .object members => (members.map Prod.fst).Nodup ∧ DistinctMembers members
  | _ => True
termination_by structural value => value
/-- None in the items does. -/
def DistinctItems : List Value → Prop
  | [] => True
  | item :: items => item.Distinct ∧ DistinctItems items
termination_by structural items => items
/-- None in the values of the members does. -/
def DistinctMembers : List (String × Value) → Prop
  | [] => True
  | (_, value) :: members => value.Distinct ∧ DistinctMembers members
termination_by structural members => members
end

theorem distinctItems_iff (items : List Value) :
    DistinctItems items ↔ ∀ v ∈ items, v.Distinct := by
  induction items with
  | nil => simp [DistinctItems]
  | cons item items ih => simp [DistinctItems, ih]

theorem distinctMembers_iff (members : List (String × Value)) :
    DistinctMembers members ↔ ∀ e ∈ members, e.2.Distinct := by
  induction members with
  | nil => simp [DistinctMembers]
  | cons e members ih => simp [DistinctMembers, ih]

theorem canonicalItems_eq_map (items : List Value) :
    canonicalItems items = items.map canonical := by
  induction items with
  | nil => rfl
  | cons item items ih => exact congrArg (item.canonical :: ·) ih

theorem canonicalMembers_eq_map (members : List (String × Value)) :
    canonicalMembers members = members.map fun e => (e.1, e.2.canonical) := by
  induction members with
  | nil => rfl
  | cons e members ih => exact congrArg ((e.1, e.2.canonical) :: ·) ih

theorem find?_canonicalMembers (name : String) (members : List (String × Value)) :
    Keyed.find? name (canonicalMembers members) = (Keyed.find? name members).map canonical := by
  induction members with
  | nil => rfl
  | cons e members ih =>
    simp only [canonicalMembers, Keyed.find?, ih]
    split <;> rfl

theorem canonicalMembers_names (members : List (String × Value)) :
    (canonicalMembers members).map Prod.fst = members.map Prod.fst := by
  rw [canonicalMembers_eq_map, List.map_map]
  rfl

/-- **Values that are alike are the same value once they are canonical**, whatever order the members
of their objects came in. -/
theorem Alike.canonical_eq {v w : Value} (h : v.Alike w) :
    v.Distinct → w.Distinct → v.canonical = w.canonical := by
  induction h with
  | null | bool | text => exact fun _ _ => rfl
  | number bits => exact fun _ _ => congrArg Value.number (eq_of_toBits bits)
  | @list items others length each ih =>
    intro dv dw
    have dv := (distinctItems_iff items).mp dv
    have dw := (distinctItems_iff others).mp dw
    simp only [canonical, canonicalItems_eq_map]
    refine congrArg Value.list (List.ext_getElem (by simpa using length) fun i h h' => ?_)
    rw [List.getElem_map, List.getElem_map]
    rw [List.length_map] at h h'
    exact ih i h h' (dv _ (List.getElem_mem h)) (dw _ (List.getElem_mem h'))
  | @object members others names each ih =>
    intro ⟨once, dv⟩ ⟨once', dw⟩
    have dv := (distinctMembers_iff members).mp dv
    have dw := (distinctMembers_iff others).mp dw
    refine congrArg Value.object (Keyed.ext_of_find? (Keyed.ascending_ofList _)
      (Keyed.ascending_ofList _) fun name => ?_)
    rw [Keyed.find?_ofList ((canonicalMembers_names members).symm ▸ once),
      Keyed.find?_ofList ((canonicalMembers_names others).symm ▸ once'), find?_canonicalMembers,
      find?_canonicalMembers]
    have both := names name
    cases hv : Keyed.find? name members with
    | none =>
      rw [hv] at both
      have absent : Keyed.find? name others = none :=
        Option.isNone_iff_eq_none.mp (by simpa using both.symm)
      rw [absent]
    | some a =>
      rw [hv] at both
      obtain ⟨b, hw⟩ := Option.isSome_iff_exists.mp both.symm
      rw [hw]
      exact congrArg some
        (ih name a b hv hw (dv _ (Keyed.mem_of_find? hv)) (dw _ (Keyed.mem_of_find? hw)))

end Value

namespace Attributes

/-- Two maps hold the same values under the same names, whatever order these were stored in. -/
def Alike (a b : Attributes) : Prop :=
  Value.Alike (.object a.entries) (.object b.entries)

theorem Alike.refl (a : Attributes) : a.Alike a :=
  Value.Alike.refl _

/-- **Maps that hold the same are equal.** -/
theorem alike_iff {a b : Attributes} : a.Alike b ↔ a = b := by
  constructor
  · intro h
    have eq := h.eq ⟨a.ascending, a.canonical⟩ ⟨b.ascending, b.canonical⟩
    exact Attributes.ext (Value.object.inj eq)
  · rintro rfl
    exact Alike.refl a

theorem insertAll_entries (entries : List (String × Value)) : ∀ a : Attributes,
    (a.insertAll entries).entries =
      (Value.canonicalMembers entries).foldl (fun map e => Keyed.insert e.1 e.2 map) a.entries := by
  induction entries with
  | nil => exact fun _ => rfl
  | cons e entries ih => exact fun a => ih (a.insert e.1 e.2)

/-- **The order in which a map is filled leaves no trace**, at any depth. -/
theorem ofList_eq_of_alike {entries others : List (String × Value)}
    (h : Value.Alike (.object entries) (.object others))
    (distinct : Value.Distinct (.object entries)) (distinct' : Value.Distinct (.object others)) :
    ofList entries = ofList others := by
  refine Attributes.ext ?_
  simp only [ofList, insertAll_entries]
  exact Value.object.inj (h.canonical_eq distinct distinct')

end Attributes

end Escalation
