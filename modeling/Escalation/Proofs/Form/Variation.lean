import Escalation.Form
import Escalation.Proofs.Json.Document
import Mathlib.Algebra.Group.Nat.Defs
import Mathlib.Data.List.Forall2
import Mathlib.Data.List.Nodup
import Mathlib.Data.List.Pairwise

/-!
# Documents that are written otherwise

One form may be written in several ways: a member that says what its absence says may be left out,
a member with a second name may go by either, and what stands in a member may vary in turn. A
`Schema` lists the members of a form with all this, and `Edits` is any number of such changes, in
any set of places.

The law is about reading. What can be read of a document can be read of its variations, and is the
same (`Respects`). It is put together along the reader of a form, which reads one member after the
other (`Reads`): `Reads.required` and `Reads.orDefault` say so of one member, whatever happened to
the others, and rest on names being apart, for no two members of a schema have a name in common.
What is read back from what is written of it is then read back however it is written, and from the
text of all that a document may say in a text (`Decodes`).

Nothing is said of documents that cannot be read. A member that is given twice makes a document
unreadable, and leaving one of them out mends it.
-/

namespace Escalation.Form

/-- A member of a form. -/
structure Slot where
  name : String
  aliases : List String := []
  /-- What the member says when it is missing. -/
  default : Option Json := none
  /-- How what stands in it may be written otherwise. -/
  varies : Json → Json → Prop := Eq

/-- All names of a member. -/
def Slot.names (s : Slot) : List String :=
  s.name :: s.aliases

/-- The members of a form, no two of which have a name in common. -/
structure Schema where
  slots : List Slot
  apart : (slots.flatMap Slot.names).Nodup

/-- **The members of a form, written otherwise**: each is kept as it is, or goes by one of its names
with something in it that varies what was there, or is left out where that says the same. -/
inductive Edits (schema : Schema) : Members → Members → Prop
  | nil : Edits schema [] []
  | keep (m : String × Json) {ms ns : Members} (rest : Edits schema ms ns) :
    Edits schema (m :: ms) (m :: ns)
  | write {s : Slot} (mem : s ∈ schema.slots) {name other : String} (hn : name ∈ s.names)
    (ho : other ∈ s.names) {a b : Json} (varies : s.varies a b) {ms ns : Members}
    (rest : Edits schema ms ns) : Edits schema ((name, a) :: ms) ((other, b) :: ns)
  | drop {s : Slot} (mem : s ∈ schema.slots) {name : String} (hn : name ∈ s.names) {a : Json}
    (silent : s.default = some a) {ms ns : Members} (rest : Edits schema ms ns) :
    Edits schema ((name, a) :: ms) ns

/-- A document whose members are those of a form, written otherwise. -/
inductive Record (schema : Schema) : Json → Json → Prop
  | edit {ms ns : Members} (h : Edits schema ms ns) : Record schema (.object ms) (.object ns)

/-- A list whose items are written otherwise, each in its place. -/
inductive Items (varies : Json → Json → Prop) : Json → Json → Prop
  | edit {as bs : List Json} (h : List.Forall₂ varies as bs) : Items varies (.list as) (.list bs)

/-- **Reading does not depend on how a document is written**: what is read of one is read of
another that varies it. -/
def Respects {α : Type} (varies : Json → Json → Prop) (read : Reader α) : Prop :=
  ∀ a b x, varies a b → read a = some x → read b = some x

variable {α : Type} {read : Reader α} {schema : Schema} {s t : Slot} {ms ns : Members}

theorem respects_eq : Respects Eq read := by
  rintro a _ x rfl h
  exact h

/-- **A thing is decoded** from what is written of it, from every variation of that, and from the
text of each of these documents that is legible. Whether a document is legible depends on it alone:
it is nested no deeper than the reader goes, and its doubles are among those that are read back. -/
structure Decodes (varies : Json → Json → Prop) (write : α → Json) (read : Reader α)
    (x : α) : Prop where
  written : read (write x) = some x
  varied : ∀ json, varies (write x) json → read json = some x
  text : ∀ json, json = write x ∨ varies (write x) json → json.Legible Json.deepest →
    (Json.read? json.render).bind read = some x

theorem Respects.decodes {varies : Json → Json → Prop} (respects : Respects varies read)
    {write : α → Json} {x : α} (back : read (write x) = some x) : Decodes varies write read x := by
  have varied (json : Json) (h : varies (write x) json) : read json = some x :=
    respects _ json x h back
  refine ⟨back, varied, fun json h legible => ?_⟩
  rw [Json.read?_render legible, Option.bind_some]
  rcases h with rfl | h
  · exact back
  · exact varied json h

/-! ## One member -/

/-- A name belongs to one member. -/
theorem Schema.eq_of_name (hs : s ∈ schema.slots) (ht : t ∈ schema.slots) {name : String}
    (ns : name ∈ s.names) (nt : name ∈ t.names) : s = t := by
  by_contra ne
  have disjoint := (List.nodup_flatMap.mp schema.apart).2
  have : Std.Symm (Function.onFun List.Disjoint Slot.names) := ⟨fun _ _ => List.disjoint_symm⟩
  exact disjoint.forall hs ht ne ns nt

/-- The members that go by a name of the slot. -/
def Slot.of (s : Slot) (ms : Members) : Members :=
  ms.filter fun m => s.names.contains m.1

theorem Slot.of_cons_of_mem {name : String} (h : name ∈ s.names) (a : Json) (ms : Members) :
    s.of ((name, a) :: ms) = (name, a) :: s.of ms :=
  List.filter_cons_of_pos (List.contains_iff_mem.mpr h)

theorem Slot.of_cons_of_not_mem {name : String} (h : name ∉ s.names) (a : Json) (ms : Members) :
    s.of ((name, a) :: ms) = s.of ms :=
  List.filter_cons_of_neg (by simpa using h)

/-- What happens to the other members does not touch those of one slot. -/
theorem Edits.slot (hs : s ∈ schema.slots) (h : Edits schema ms ns) :
    Edits schema (s.of ms) (s.of ns) := by
  induction h with
  | nil => exact .nil
  | keep m rest ih =>
    obtain ⟨name, a⟩ := m
    by_cases own : name ∈ s.names
    · rw [Slot.of_cons_of_mem own, Slot.of_cons_of_mem own]
      exact .keep _ ih
    · rwa [Slot.of_cons_of_not_mem own, Slot.of_cons_of_not_mem own]
  | @write t mem name other hn ho a b varies ms ns rest ih =>
    by_cases own : name ∈ s.names
    · obtain rfl := Schema.eq_of_name hs mem own hn
      rw [Slot.of_cons_of_mem own, Slot.of_cons_of_mem ho]
      exact .write mem hn ho varies ih
    · have foreign : other ∉ s.names := fun shared =>
        own (Schema.eq_of_name hs mem shared ho ▸ hn)
      rwa [Slot.of_cons_of_not_mem own, Slot.of_cons_of_not_mem foreign]
  | @drop t mem name hn a silent ms ns rest ih =>
    by_cases own : name ∈ s.names
    · rw [Slot.of_cons_of_mem own]
      exact .drop mem hn silent ih
    · rwa [Slot.of_cons_of_not_mem own]

/-- **What is given of a member** is given as it was, or varied, or no longer where that says the
same. -/
theorem Edits.given (h : Edits schema ms ns) (hs : s ∈ schema.slots) {given : Option Json}
    (hg : given? s.names ms = some given) : given? s.names ns = some given ∨
      ∃ a, given = some a ∧ ((∃ b, s.varies a b ∧ given? s.names ns = some (some b)) ∨
        s.default = some a ∧ given? s.names ns = some none) := by
  have own := h.slot hs
  have named : ∀ m ∈ s.of ms, m.1 ∈ s.names := fun m mem =>
    List.contains_iff_mem.mp (List.mem_filter.mp mem).2
  simp only [given?] at hg ⊢
  unfold Slot.of at own named
  generalize List.filter _ ms = before at hg own named
  generalize List.filter _ ns = after at own ⊢
  split at hg
  · cases own
    exact .inl hg
  · rename_i name a
    cases hg
    have mem := named _ List.mem_cons_self
    cases own with
    | keep m rest =>
      cases rest
      exact .inl rfl
    | write ht hn ho varies rest =>
      cases rest
      obtain rfl := Schema.eq_of_name hs ht mem hn
      exact .inr ⟨a, rfl, .inl ⟨_, varies, rfl⟩⟩
    | drop ht hn silent rest =>
      cases rest
      obtain rfl := Schema.eq_of_name hs ht mem hn
      exact .inr ⟨a, rfl, .inr ⟨silent, rfl⟩⟩
  · cases hg

/-- The member of a schema that goes by these names. -/
def Schema.slot? (schema : Schema) (names : List String) : Option Slot :=
  schema.slots.find? (·.names == names)

theorem Schema.of_slot? {names : List String} (own : schema.slot? names = some s) :
    s ∈ schema.slots ∧ s.names = names :=
  ⟨List.mem_of_find?_eq_some own, by simpa using List.find?_some own⟩

/-- A member by its names is written otherwise. -/
theorem Edits.rewrite (names : List String) (own : schema.slot? names = some s)
    {name other : String} (hn : name ∈ names) (ho : other ∈ names) {a b : Json}
    (varies : s.varies a b) (rest : Edits schema ms ns) :
    Edits schema ((name, a) :: ms) ((other, b) :: ns) := by
  obtain ⟨mem, rfl⟩ := Schema.of_slot? own
  exact .write mem hn ho varies rest

/-- A member by its names is left out. -/
theorem Edits.leave (names : List String) (own : schema.slot? names = some s) {name : String}
    (hn : name ∈ names) {a : Json} (silent : s.default = some a) (rest : Edits schema ms ns) :
    Edits schema ((name, a) :: ms) ns := by
  obtain ⟨mem, rfl⟩ := Schema.of_slot? own
  exact .drop mem hn silent rest

/-! ## All members -/

/-- **Reading members does not depend on how they are written.** -/
def Reads (schema : Schema) (read : Members → Option α) : Prop :=
  ∀ ms ns x, Edits schema ms ns → read ms = some x → read ns = some x

namespace Reads

variable {β : Type}

/-- **A member that must be there is read as before.** -/
theorem required (names : List String) (own : schema.slot? names = some s)
    (needed : s.default = none) (respects : Respects s.varies read) :
    Reads schema (required? names read) := by
  obtain ⟨mem, rfl⟩ := Schema.of_slot? own
  intro ms ns x edits h
  obtain ⟨given, hg, hx⟩ := Option.bind_eq_some_iff.mp h
  rw [required?]
  rcases edits.given mem hg with same | ⟨a, rfl, ⟨b, varies, varied⟩ | ⟨silent, -⟩⟩
  · rw [same]
    exact hx
  · rw [varied]
    exact respects a b x varies hx
  · rw [needed] at silent
    cases silent

/-- **A member with a default is read as before**, if its absence says the default. -/
theorem orDefault (names : List String) {default : α} (own : schema.slot? names = some s)
    (means : s.default = none ∨ s.default.bind read = some default)
    (respects : Respects s.varies read) : Reads schema (orDefault? names default read) := by
  obtain ⟨mem, rfl⟩ := Schema.of_slot? own
  intro ms ns x edits h
  obtain ⟨given, hg, hx⟩ := Option.bind_eq_some_iff.mp h
  rw [orDefault?]
  rcases edits.given mem hg with same | ⟨a, rfl, ⟨b, varies, varied⟩ | ⟨silent, missing⟩⟩
  · rw [same]
    exact hx
  · rw [varied]
    exact respects a b x varies hx
  · rw [missing]
    rw [silent] at means
    rcases means with none | means
    · cases none
    · exact means.symm.trans hx

theorem const (x : Option α) : Reads schema fun _ => x :=
  fun _ _ _ _ h => h

theorem bind {first : Members → Option α} {rest : α → Members → Option β}
    (hf : Reads schema first) (hr : ∀ a, Reads schema (rest a)) :
    Reads schema fun ms => first ms >>= fun a => rest a ms := by
  intro ms ns x edits h
  obtain ⟨a, ha, hx⟩ := Option.bind_eq_some_iff.mp h
  exact Option.bind_eq_some_iff.mpr ⟨a, hf ms ns a edits ha, hr a ms ns x edits hx⟩

theorem map {first : Members → Option α} (f : α → β) (hf : Reads schema first) :
    Reads schema fun ms => (first ms).map f := by
  intro ms ns x edits h
  obtain ⟨a, ha, rfl⟩ := Option.map_eq_some_iff.mp h
  exact Option.map_eq_some_iff.mpr ⟨a, hf ms ns a edits ha, rfl⟩

end Reads

/-- A form that is read by its members is read the same however it is written. -/
theorem Respects.record {members : Members → Option α} (h : Reads schema members) :
    Respects (Record schema) fun json => members? .json json >>= members := by
  rintro _ _ x ⟨edits⟩ hx
  exact h _ _ x edits hx

/-! ## Lists -/

theorem mapM_forall₂ {varies : Json → Json → Prop} (respects : Respects varies read)
    {as bs : List Json} (h : List.Forall₂ varies as bs) {xs : List α}
    (hr : as.mapM read = some xs) : bs.mapM read = some xs := by
  induction h generalizing xs with
  | nil => exact hr
  | cons first rest ih =>
    simp only [List.mapM_cons, Option.bind_eq_bind, Option.bind_eq_some_iff] at hr ⊢
    obtain ⟨x, hx, ys, hys, eq⟩ := hr
    exact ⟨x, respects _ _ x first hx, ys, ih hys, eq⟩

/-- A list is read as before if its items are. -/
theorem respects_items {varies : Json → Json → Prop} (d : Dialect)
    (respects : Respects varies read) : Respects (Items varies) (list? d read) := by
  rintro _ _ xs ⟨h⟩ hr
  exact mapM_forall₂ respects h hr

/-- Written items are read back as a list if each of them is read back. -/
theorem list?_listOf {write : α → Json} {xs : List α} (d : Dialect)
    (back : ∀ x ∈ xs, read (write x) = some x) : list? d read (listOf write xs) = some xs := by
  rw [listOf, list?]
  induction xs with
  | nil => rfl
  | cons x xs ih =>
    rw [List.map_cons, List.mapM_cons, back x List.mem_cons_self,
      ih fun y mem => back y (List.mem_cons_of_mem _ mem)]
    rfl

theorem list?_texts (d : Dialect) (xs : List String) :
    list? d text? (listOf .text xs) = some xs :=
  list?_listOf d fun _ _ => rfl

/-! ## Null -/

/-- What is written, or null for nothing, is read back if nothing is written as null. -/
theorem nullable?_orNull {write : α → Json} {x : Option α}
    (back : ∀ a ∈ x, read (write a) = some a) (shown : ∀ a ∈ x, write a ≠ .null) :
    nullable? read (orNull write x) = some x := by
  cases x with
  | none => rfl
  | some a =>
    have json := back a rfl
    rw [orNull, nullable?, json]
    · rfl
    · exact shown a rfl

/-! ## Numbers -/

/-- An integer of 32 bits with a sign. -/
def IsInt32 (n : Int) : Prop :=
  -2147483648 ≤ n ∧ n ≤ 2147483647

theorem int32?_ofInt {n : Int} (h : IsInt32 n) : int32? (.ofInt n) = some n := by
  simp only [int32?, integer?, Json.ofInt, decide_eq_true h.1, decide_eq_true h.2, Bool.and_self,
    if_true]

theorem count?_ofNat {n : Nat} (h : n < 2 ^ 64) : count? (.ofNat n) = some n := by
  have low : (0 : Int) ≤ n := Int.natCast_nonneg n
  have high : (n : Int) ≤ (wordSize - 1 : Nat) := Int.ofNat_le.mpr (Nat.le_sub_one_of_lt h)
  simp only [count?, integer?, Json.ofNat, decide_eq_true low, decide_eq_true high, Bool.and_self,
    if_true, Option.map_some, Int.toNat_natCast]

end Escalation.Form
