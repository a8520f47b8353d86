import Escalation.Proofs.Cache.History
import Escalation.Proofs.Cache.Stats

/-!
# Where the entries of a cache go

Every entry of a cache was inserted once and leaves it once: a lookup finds it expired, it makes room
for another, one under its key overwrites it, or the cache is cleared. The first two are counted by
the cache itself (an entry that makes room counts as evicted, expired or not), the others are counted
along the run (`total`).

`Balanced` says that the numbers agree, and that the cache never grows beyond its bound. Nothing is
asked of the time that outcomes are kept.

What each operation adds to either side is the matter of `put_balance`, `get_balance` and
`clear_balance`; the run is put together from them (`performAll_balanced`).
-/

namespace Escalation.Cache

variable {settings : CacheSettings} {c next : Cache} {now : Nat} {key : String} {o : Outcome}
  {op : Operation} {ops : List Operation}

/-! ## Counting along a run -/

/-- How many entries an operation overwrites: the one under its key, if it stores under a key that
is held. -/
def overwrites (c : Cache) : Operation → Nat
  | .put _ key _ => if (c.entry? key).isSome then 1 else 0
  | .get _ _ | .clear => 0

/-- How many entries an operation clears. -/
def clears (c : Cache) : Operation → Nat
  | .clear => c.size
  | .put _ _ _ | .get _ _ => 0

/-- What the operations of a run come to, each with its amount on the cache that it is done to. -/
def total (amount : Cache → Operation → Nat) : List Operation → Cache → Nat
  | [], _ => 0
  | op :: ops, c => amount c op + (c.perform op).elim 0 (total amount ops)

theorem total_snoc {amount : Cache → Operation → Nat} {first : Cache}
    (run : first.performAll ops = some c) :
    total amount (ops ++ [op]) first = total amount ops first + amount c op := by
  induction ops generalizing first with
  | nil =>
    cases run
    cases step : c.perform op <;> simp [total, step]
  | cons op' ops ih =>
    obtain ⟨second, step, rest⟩ := Option.bind_eq_some_iff.mp run
    rw [List.cons_append, total, total, step, Option.elim_some, Option.elim_some, ih rest,
      Nat.add_assoc]

/-- Whether an operation is a lookup. -/
def Operation.isGet : Operation → Bool
  | get _ _ => true
  | put _ _ _ | clear => false

/-- Whether an operation stores something. -/
def Operation.isPut : Operation → Bool
  | put _ _ _ => true
  | get _ _ | clear => false

/-! ## One operation -/

/-- **What makes room counts as evicted.** -/
theorem makeRoom_balance (distinct : c.Distinct) (now : Nat) (key : String) :
    (c.makeRoom now key).size + (c.makeRoom now key).stats.evictions =
      c.size + c.stats.evictions := by
  by_cases room : c.settings.maxEntries = 0 ∨ c.size < c.settings.maxEntries ∨ c.Holds key
  · rw [makeRoom_of_room room]
  · simp only [not_or, Nat.not_lt] at room
    have fewer : (c.entries.filter fun e => now < e.expires).length ≤ c.entries.length :=
      List.length_filter_le _ _
    rw [makeRoom_of_full now room.1 room.2.1 room.2.2]
    simp only [size]
    rw [Nat.add_left_comm, length_evict (distinct.sublist (List.filter_sublist.map _))]
    omega

/-- **An outcome that is stored is one entry more**, for which others may have been evicted, or one
overwritten. -/
theorem put_balance (distinct : c.Distinct) (h : c.put now key o = some next) :
    next.size + next.stats.evictions + c.overwrites (.put now key o) =
      c.size + c.stats.evictions + 1 := by
  rw [size, put_entries h, put_evictions h, List.length_append, List.length_singleton, overwrites]
  by_cases held : c.Holds key
  · have one := length_without distinct (holds_iff_mem.mp held)
    rw [makeRoom_of_room (.inr (.inr held)), if_pos (holds_iff.mp held), size]
    omega
  · have left := makeRoom_sublist c now key
    have others : without key (c.makeRoom now key).entries = (c.makeRoom now key).entries :=
      without_of_absent fun mem => held (holds_iff_mem.mpr ((left.map _).subset mem))
    have room := makeRoom_balance distinct now key
    rw [others, if_neg (holds_iff.not.mp held)]
    rw [size] at room
    omega

/-- **A bounded cache does not grow beyond its bound.** -/
theorem put_size_le (bounded : c.settings.maxEntries ≠ 0) (distinct : c.Distinct)
    (fits : c.size ≤ c.settings.maxEntries) (h : c.put now key o = some next) :
    next.size ≤ c.settings.maxEntries := by
  rw [size, put_entries h, List.length_append, List.length_singleton]
  by_cases held : c.Holds key
  · have one := length_without distinct (holds_iff_mem.mp held)
    rw [makeRoom_of_room (.inr (.inr held)), one]
    exact fits
  · have fewer : (without key (c.makeRoom now key).entries).length ≤
        (c.makeRoom now key).entries.length := List.length_filter_le _ _
    by_cases room : c.size < c.settings.maxEntries
    · rw [makeRoom_of_room (.inr (.inl room))] at fewer ⊢
      rw [size] at room
      omega
    · rw [makeRoom_of_full now bounded (Nat.not_lt.mp room) held] at fewer ⊢
      exact Nat.lt_of_le_of_lt fewer (length_evict_lt bounded)

/-- **A lookup counts once**, and what it finds expired has left the cache. -/
theorem get_balance (distinct : c.Distinct) (h : (c.get now key).2 = next) :
    next.size + next.stats.expired = c.size + c.stats.expired ∧
      next.stats.hits + next.stats.misses = c.stats.hits + c.stats.misses + 1 ∧
      next.stats.expired + c.stats.misses ≤ c.stats.expired + next.stats.misses ∧
      next.stats.evictions = c.stats.evictions ∧ next.stats.inserts = c.stats.inserts := by
  unfold get at h
  cases found : c.entry? key with
  | none =>
    rw [found] at h
    subst h
    simp only [size, true_and, and_true]
    omega
  | some e =>
    have held : key ∈ c.entries.map (·.key) := by
      rw [← holds_iff_mem, holds_iff, found]
      rfl
    have one := length_without distinct held
    rw [found] at h
    simp only at h
    split at h
    · subst h
      simp only [size, true_and, and_true]
      omega
    · subst h
      simp only [size, and_true]
      omega

/-! ## Runs -/

/-- **The books of a cache balance** after a run. -/
structure Balanced (settings : CacheSettings) (ops : List Operation) (c : Cache) : Prop where
  bound : 0 < settings.maxEntries → c.size ≤ settings.maxEntries
  lookups : c.stats.hits + c.stats.misses = ops.countP (·.isGet)
  expired : c.stats.expired ≤ c.stats.misses
  inserts : c.stats.inserts = ops.countP (·.isPut)
  /-- What was inserted is there, or was evicted, found expired, overwritten or cleared. -/
  entries : c.stats.inserts = c.size + c.stats.evictions + c.stats.expired +
    total overwrites ops (.ofSettings settings) + total clears ops (.ofSettings settings)

/-- Every operation keeps the balance. -/
theorem Balanced.step (run : (ofSettings settings).performAll ops = some c)
    (h : Balanced settings ops c) (step : c.perform op = some next) :
    Balanced settings (ops ++ [op]) next := by
  have distinct := performAll_distinct run
  have same := performAll_settings run
  obtain ⟨bound, lookups, expired, inserts, entries⟩ := h
  cases op with
  | put now key o =>
    have balance := put_balance distinct step
    have lapsed := put_expired step
    obtain ⟨hits, misses, stored⟩ := put_stats step
    refine ⟨fun bounded => ?_, ?_, ?_, ?_, ?_⟩
    · rw [← same] at bounded bound ⊢
      exact put_size_le (Nat.ne_of_gt bounded) distinct (bound bounded) step
    · simpa [hits, misses, Operation.isGet] using lookups
    · rwa [lapsed, misses]
    · simpa [stored, Operation.isPut] using inserts
    · rw [total_snoc run, total_snoc run, stored, entries, lapsed, clears]
      omega
  | get now key =>
    obtain ⟨left, looked, lapsed, evictions, stored⟩ :=
      get_balance distinct (Option.some.inj step)
    refine ⟨fun bounded => ?_, ?_, ?_, ?_, ?_⟩
    · cases step
      exact Nat.le_trans (get_sublist c now key).length_le (bound bounded)
    · rw [looked, lookups, List.countP_append]
      rfl
    · omega
    · rw [stored, inserts, List.countP_append]
      rfl
    · rw [total_snoc run, total_snoc run, stored, entries, evictions, overwrites, clears]
      omega
  | clear =>
    cases step
    refine ⟨fun _ => Nat.zero_le _, ?_, expired, ?_, ?_⟩
    · rw [List.countP_append]
      exact lookups
    · rw [List.countP_append]
      exact inserts
    · rw [total_snoc run, total_snoc run, overwrites, clears]
      change c.stats.inserts = 0 + c.stats.evictions + c.stats.expired + _ + _
      omega

/-- **The books balance after every run** of a cache of any settings, and a run goes through if all
that it stores has its time within the clock. -/
theorem performAll_balanced (settings : CacheSettings) (ops : List Operation) :
    (((ofSettings settings).performAll ops).isSome = true ↔ ∀ op ∈ ops, op.Fits settings) ∧
      ∀ c, (ofSettings settings).performAll ops = some c → Balanced settings ops c := by
  refine ⟨performAll_isSome, ?_⟩
  induction ops using List.reverseRecOn with
  | nil =>
    intro c run
    cases run
    exact ⟨fun _ => Nat.zero_le _, rfl, Nat.le_refl 0, rfl, rfl⟩
  | append_singleton ops op ih =>
    intro next run
    rw [performAll_snoc] at run
    obtain ⟨c, before, step⟩ := Option.bind_eq_some_iff.mp run
    exact (ih c before).step before step

/-- **The counts of a cache fit in words** as long as fewer operations than that have been done. -/
theorem Balanced.counts_fit (h : Balanced settings ops c) (few : ops.length < wordSize) :
    ∀ count ∈ [c.stats.hits, c.stats.misses, c.stats.expired, c.stats.evictions, c.stats.inserts],
      count < wordSize := by
  have gets : ops.countP (·.isGet) ≤ ops.length := List.countP_le_length
  have puts : ops.countP (·.isPut) ≤ ops.length := List.countP_le_length
  obtain ⟨-, lookups, expired, inserts, entries⟩ := h
  simp only [List.forall_mem_cons, List.not_mem_nil, false_implies, implies_true, and_true]
  omega

section Witness

/-- Entries are looked up, stored anew, evicted and cleared. -/
def turnover : List Operation :=
  [.put 0 "a" (.none 0), .put 1 "b" (.none 1), .get 2 "a", .put 3 "b" (.none 2),
    .put 4 "c" (.none 3), .get 5 "a", .clear, .put 6 "a" (.none 4)]

/-- Five outcomes were stored: one is there, one was evicted, one overwritten, and two cleared. -/
theorem turnover_balanced : ∃ c, (ofSettings { maxEntries := 2 }).performAll turnover = some c ∧
    c.size ≤ 2 ∧ c.stats.inserts = 5 ∧
    c.stats.inserts = c.size + c.stats.evictions + c.stats.expired + 1 + 2 := by
  have through : ((ofSettings { maxEntries := 2 }).performAll turnover).isSome = true := by
    decide +kernel
  have overwritten : total overwrites turnover (.ofSettings { maxEntries := 2 }) = 1 := by
    decide +kernel
  have cleared : total clears turnover (.ofSettings { maxEntries := 2 }) = 2 := by decide +kernel
  obtain ⟨c, run⟩ := Option.isSome_iff_exists.mp through
  have balanced := (performAll_balanced { maxEntries := 2 } turnover).2 c run
  have entries := balanced.entries
  rw [overwritten, cleared] at entries
  exact ⟨c, run, balanced.bound (by decide), balanced.inserts, entries⟩

end Witness

end Escalation.Cache
