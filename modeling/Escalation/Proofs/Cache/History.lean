import Escalation.Proofs.Cache.Retention
import Mathlib.Data.List.Induction

/-!
# Runs of a cache

A cache is used by storing outcomes, looking them up and clearing, in any order (`Operation`). What
is true of an empty cache and kept by every operation is true after every run
(`performAll_induction`); a run goes through unless an outcome's time would end after the clock's
(`performAll_isSome`).

No cache of a run has two entries under one key (`performAll_distinct`), so what is found under a
key is what is held there.
-/

namespace Escalation.Cache

/-- What can be done to a cache. -/
inductive Operation where
  | put (now : Nat) (key : String) (outcome : Outcome)
  | get (now : Nat) (key : String)
  | clear

namespace Operation

/-- When the operation takes place, if it looks at the clock. -/
def instant? : Operation → Option Nat
  | put now _ _ | get now _ => some now
  | clear => none

/-- Whether what the operation stores has its time within the clock. -/
def Fits (settings : CacheSettings) : Operation → Prop
  | put now _ _ => now + 1000000000 * settings.ttlSeconds < lastInstant
  | get _ _ | clear => True

end Operation

/-- The cache after an operation, if it can be done. -/
def perform (c : Cache) : Operation → Option Cache
  | .put now key o => c.put now key o
  | .get now key => some (c.get now key).2
  | .clear => some c.clear

/-- The cache after a list of operations, one after the other. -/
def performAll (c : Cache) (ops : List Operation) : Option Cache :=
  ops.foldlM perform c

variable {settings : CacheSettings} {c next : Cache} {now : Nat} {key : String} {o : Outcome}
  {op : Operation} {ops : List Operation}

/-! ## Runs -/

theorem performAll_snoc :
    c.performAll (ops ++ [op]) = (c.performAll ops).bind (perform · op) := by
  simp [performAll, List.foldlM_append]

/-- **What every operation keeps, a run keeps**, from an empty cache on. -/
theorem performAll_induction {P : List Operation → Cache → Prop}
    (nil : P [] (.ofSettings settings))
    (snoc : ∀ ops op c next, P ops c → c.perform op = some next → P (ops ++ [op]) next) :
    ∀ {ops c}, (ofSettings settings).performAll ops = some c → P ops c := by
  intro ops
  induction ops using List.reverseRecOn with
  | nil =>
    intro c run
    cases run
    exact nil
  | append_singleton ops op ih =>
    intro next run
    rw [performAll_snoc] at run
    obtain ⟨c, before, last⟩ := Option.bind_eq_some_iff.mp run
    exact snoc ops op c next (ih before) last

theorem perform_settings (h : c.perform op = some next) : next.settings = c.settings := by
  cases op with
  | put now key o => exact put_settings h
  | get now key =>
    cases h
    exact get_settings
  | clear =>
    cases h
    rfl

theorem perform_isSome : (c.perform op).isSome = true ↔ op.Fits c.settings := by
  cases op with
  | put now key o => exact put_isSome
  | get now key => exact iff_of_true rfl trivial
  | clear => exact iff_of_true rfl trivial

theorem performAll_settings (run : (ofSettings settings).performAll ops = some c) :
    c.settings = settings :=
  performAll_induction (P := fun _ c => c.settings = settings) rfl
    (fun _ _ _ _ same step => (perform_settings step).trans same) run

/-- **A run goes through** exactly if all that it stores has its time within the clock. -/
theorem performAll_isSome : ((ofSettings settings).performAll ops).isSome = true ↔
    ∀ op ∈ ops, op.Fits settings := by
  induction ops using List.reverseRecOn with
  | nil => simp [performAll]
  | append_singleton ops op ih =>
    rw [performAll_snoc, List.forall_mem_append, List.forall_mem_singleton, ← ih]
    cases run : (ofSettings settings).performAll ops with
    | none => simp
    | some c =>
      rw [Option.bind_some, perform_isSome, performAll_settings run]
      simp

/-! ## Entries under different keys -/

/-- No two entries are under one key. -/
def Distinct (c : Cache) : Prop :=
  (c.entries.map (·.key)).Nodup

theorem holds_iff_mem : c.Holds key ↔ key ∈ c.entries.map (·.key) := by
  rw [List.mem_map]
  rfl

/-- What is found under a key is what is held there. -/
theorem entry?_eq_some (distinct : c.Distinct) {e : CacheEntry} :
    c.entry? key = some e ↔ e ∈ c.entries ∧ e.key = key := by
  constructor
  · intro found
    exact ⟨List.mem_of_find?_eq_some found, by simpa using List.find?_some found⟩
  · rintro ⟨mem, rfl⟩
    obtain ⟨other, found⟩ := Option.isSome_iff_exists.mp (holds_iff.mp ⟨e, mem, rfl⟩)
    have same : other.key = e.key := by simpa using List.find?_some found
    rw [found, List.inj_on_of_nodup_map distinct (List.mem_of_find?_eq_some found) mem same]

/-! ## Making room -/

/-- A cache with room for the key is left as it is. -/
theorem makeRoom_of_room (room : c.settings.maxEntries = 0 ∨ c.size < c.settings.maxEntries ∨
    c.Holds key) : c.makeRoom now key = c := by
  rw [holds_iff, size] at room
  refine if_pos ?_
  simpa [or_assoc] using room

/-- A full cache drops the entries whose time is over, and evicts of the others until there is room
for one more. -/
theorem makeRoom_of_full (now : Nat) (bounded : c.settings.maxEntries ≠ 0)
    (full : c.settings.maxEntries ≤ c.size) (absent : ¬ c.Holds key) :
    let kept := c.entries.filter fun e => now < e.expires
    let left := evict c.settings.maxEntries kept (c.entries.length - kept.length)
    c.makeRoom now key = { c with
      entries := left.1
      stats := { c.stats with evictions := c.stats.evictions + left.2 } } := by
  rw [holds_iff] at absent
  refine if_neg ?_
  simpa [bounded, absent, size] using full

theorem makeRoom_sublist (c : Cache) (now : Nat) (key : String) :
    (c.makeRoom now key).entries.Sublist c.entries := by
  unfold makeRoom
  simp only
  split
  · exact List.Sublist.refl _
  · exact (evict_sublist _ _ _).trans List.filter_sublist

theorem get_sublist (c : Cache) (now : Nat) (key : String) :
    (c.get now key).2.entries.Sublist c.entries := by
  unfold get
  split
  · split
    · exact List.Sublist.refl _
    · exact List.filter_sublist
  · exact List.Sublist.refl _

/-- The entry that storing an outcome makes. -/
def entryOf (settings : CacheSettings) (now : Nat) (key : String) (o : Outcome) : CacheEntry :=
  ⟨key, o, now, now + 1000000000 * settings.ttlSeconds⟩

/-- **What storing does**: the new entry is put behind the others, in the room that was made. -/
theorem eq_of_put (h : c.put now key o = some next) : next = { c.makeRoom now key with
    entries := without key (c.makeRoom now key).entries ++ [entryOf c.settings now key o]
    stats := { (c.makeRoom now key).stats with
      inserts := (c.makeRoom now key).stats.inserts + 1 } } := by
  unfold put at h
  simp only at h
  split at h
  · exact (Option.some.inj h).symm
  · cases h

theorem put_entries (h : c.put now key o = some next) : next.entries =
    without key (c.makeRoom now key).entries ++ [entryOf c.settings now key o] := by
  rw [eq_of_put h]

theorem put_evictions (h : c.put now key o = some next) :
    next.stats.evictions = (c.makeRoom now key).stats.evictions := by
  rw [eq_of_put h]

theorem put_expired (h : c.put now key o = some next) :
    next.stats.expired = c.stats.expired := by
  rw [eq_of_put h]
  unfold makeRoom
  simp only
  split <;> rfl

theorem perform_distinct (distinct : c.Distinct) (h : c.perform op = some next) :
    next.Distinct := by
  cases op with
  | put now key o =>
    have left : ((c.makeRoom now key).entries.map (·.key)).Nodup :=
      distinct.sublist ((makeRoom_sublist c now key).map _)
    rw [Distinct, put_entries h]
    exact nodup_without_snoc left (entryOf c.settings now key o)
  | get now key =>
    cases h
    exact distinct.sublist ((get_sublist c now key).map _)
  | clear =>
    cases h
    exact List.nodup_nil

/-- **No cache of a run has two entries under one key.** -/
theorem performAll_distinct (run : (ofSettings settings).performAll ops = some c) : c.Distinct :=
  performAll_induction (P := fun _ c => c.Distinct) List.nodup_nil
    (fun _ _ _ _ distinct step => perform_distinct distinct step) run

/-- **An entry was made by an operation of the run.** -/
theorem performAll_mem (run : (ofSettings settings).performAll ops = some c) :
    ∀ e ∈ c.entries, ∃ now, .put now e.key e.outcome ∈ ops ∧
      e = entryOf settings now e.key e.outcome := by
  refine (performAll_induction (P := fun ops c => c.settings = settings ∧ ∀ e ∈ c.entries,
    ∃ now, .put now e.key e.outcome ∈ ops ∧ e = entryOf settings now e.key e.outcome)
    ⟨rfl, List.forall_mem_nil _⟩ ?_ run).2
  rintro ops op c next ⟨same, made⟩ step
  refine ⟨(perform_settings step).trans same, fun e mem => ?_⟩
  have earlier (old : e ∈ c.entries) : ∃ now, .put now e.key e.outcome ∈ ops ++ [op] ∧
      e = entryOf settings now e.key e.outcome := by
    obtain ⟨now, put, entry⟩ := made e old
    exact ⟨now, List.mem_append_left _ put, entry⟩
  cases op with
  | put now key o =>
    rw [put_entries step, same] at mem
    rcases List.mem_append.mp mem with old | new
    · exact earlier (mem_of_mem_makeRoom (List.mem_filter.mp old).1)
    · cases List.mem_singleton.mp new
      exact ⟨now, List.mem_append_right _ List.mem_cons_self, rfl⟩
  | get now key =>
    cases step
    exact earlier (mem_of_mem_get mem)
  | clear =>
    cases step
    cases mem

end Escalation.Cache
