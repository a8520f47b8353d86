import Escalation.Proofs.Cache.History
import Mathlib.Data.Finset.Card

/-!
# The keys stored last

While nothing expires, a bounded cache holds the keys stored last, as many as its bound says, each
with the outcome that was stored under it last (`Kept`, `performAll_keeps`). Storing under a key that
is held counts as storing it anew, and pushes out no other; looking up counts for nothing.

The way there is a list without a bound (`newest`), in which every key stored since the last clearing
has one place, behind those that were stored before it. It is read in two directions. The history
says which entries it has, and the keys behind an entry are those stored after it (`mem_newest`,
`newest_split`); and the cache holds the end of it (`entries_eq_ending`).

An eviction takes the entry stored at the least instant, wherever it stands, and no other before it
(`put_evicts`). If no two outcomes are stored at one instant (`StoredInTurn`), the entries stand in
the order of the instants (`performAll_ascending`), so what is taken is the first of them.

Where outcomes are kept for no time at all nothing is found, and what is looked up is dropped
(`get_of_expired`).
-/

namespace Escalation.Cache

variable {settings : CacheSettings} {c next : Cache} {now start : Nat} {key : String} {o : Outcome}
  {op : Operation} {ops before after : List Operation} {e : CacheEntry}

/-! ## What the history says -/

/-- The key that an operation stores an outcome under. -/
def Operation.key? : Operation → Option String
  | .put _ key _ => some key
  | .get _ _ | .clear => none

/-- The keys that outcomes are stored under, in order. -/
def storedKeys (ops : List Operation) : List String :=
  ops.filterMap Operation.key?

/-- **The outcome stored last under a key**, and not cleared since, with the operations after it. -/
def Latest (ops : List Operation) (now : Nat) (key : String) (o : Outcome)
    (after : List Operation) : Prop :=
  (∃ before, ops = before ++ .put now key o :: after) ∧ .clear ∉ after ∧ key ∉ storedKeys after

/-- **An outcome is among those stored last**: fewer keys were stored after it than there is room
for. -/
def Kept (settings : CacheSettings) (ops : List Operation) (key : String) (o : Outcome) : Prop :=
  ∃ now after, Latest ops now key o after ∧
    (settings.maxEntries = 0 ∨ (storedKeys after).toFinset.card < settings.maxEntries)

/-- Entries after an operation, if none is evicted and none expires. -/
def record (settings : CacheSettings) (entries : List CacheEntry) : Operation → List CacheEntry
  | .put now key o => without key entries ++ [entryOf settings now key o]
  | .get _ _ => entries
  | .clear => []

/-- The latest entry of every key stored since the last clearing, the one stored last behind all
others. -/
def newest (settings : CacheSettings) (ops : List Operation) : List CacheEntry :=
  ops.foldl (record settings) []

theorem newest_snoc :
    newest settings (ops ++ [op]) = record settings (newest settings ops) op := by
  simp [newest]

theorem storedKeys_append : storedKeys (before ++ after) = storedKeys before ++ storedKeys after :=
  List.filterMap_append

/-- **What was stored before stays in front**, save under the keys that were stored since. -/
theorem newest_append (uncleared : .clear ∉ after) : newest settings (before ++ after) =
    (newest settings before).filter (·.key ∉ storedKeys after) ++ newest settings after := by
  induction after using List.reverseRecOn with
  | nil => simp [storedKeys, newest]
  | append_singleton after op ih =>
    rw [List.mem_append, not_or] at uncleared
    rw [← List.append_assoc, newest_snoc, newest_snoc, ih uncleared.1]
    cases op with
    | put now key o =>
      have keys : storedKeys (after ++ [.put now key o]) = storedKeys after ++ [key] :=
        storedKeys_append
      rw [keys, record, record, without, without, List.filter_append, List.filter_filter,
        ← List.append_assoc]
      congr 2
      refine List.filter_congr fun e _ => ?_
      simp [and_comm, bne, beq_eq_decide]
    | get now key =>
      have keys : storedKeys (after ++ [.get now key]) = storedKeys after := by
        simp [storedKeys, Operation.key?]
      rw [keys, record, record]
    | clear => exact absurd List.mem_cons_self uncleared.2

/-- Every key has one place. -/
theorem newest_distinct (ops : List Operation) :
    ((newest settings ops).map (·.key)).Nodup := by
  induction ops using List.reverseRecOn with
  | nil => exact List.nodup_nil
  | append_singleton ops op ih =>
    rw [newest_snoc]
    cases op with
    | put now key o => exact nodup_without_snoc ih (entryOf settings now key o)
    | get now key => exact ih
    | clear => exact List.nodup_nil

/-- Without a clearing, these are the keys that were stored. -/
theorem mem_newest_keys (uncleared : .clear ∉ ops) :
    key ∈ (newest settings ops).map (·.key) ↔ key ∈ storedKeys ops := by
  induction ops using List.reverseRecOn with
  | nil => simp [newest, storedKeys]
  | append_singleton ops op ih =>
    rw [List.mem_append, not_or] at uncleared
    have ih := ih uncleared.1
    rw [newest_snoc, storedKeys_append]
    cases op with
    | put now other o =>
      rw [record, List.map_append, without_keys (newest_distinct ops), List.mem_append,
        (newest_distinct ops).mem_erase_iff, List.mem_append, ih]
      by_cases same : key = other
      · simp [same, storedKeys, Operation.key?, entryOf]
      · simp [same, storedKeys, Operation.key?, entryOf]
    | get now other => simpa [storedKeys, Operation.key?, record] using ih
    | clear => exact absurd List.mem_cons_self uncleared.2

theorem length_newest (uncleared : .clear ∉ ops) :
    (newest settings ops).length = (storedKeys ops).toFinset.card := by
  rw [← List.length_map (f := (·.key)), ← List.toFinset_card_of_nodup (newest_distinct ops)]
  congr 1
  ext key
  rw [List.mem_toFinset, List.mem_toFinset, mem_newest_keys uncleared]

/-- **Behind the entry of an outcome stored last are those stored after it**, and none of them has
its key. -/
theorem newest_split (settings : CacheSettings) (latest : Latest ops now key o after) : ∃ older,
    newest settings ops = older ++ entryOf settings now key o :: newest settings after ∧
      key ∉ (newest settings after).map (·.key) := by
  obtain ⟨⟨before, rfl⟩, uncleared, last⟩ := latest
  have split : newest settings (before ++ .put now key o :: after) =
      (without key (newest settings before)).filter (·.key ∉ storedKeys after) ++
        entryOf settings now key o :: newest settings after := by
    rw [List.append_cons, newest_append uncleared, newest_snoc, record, List.filter_append,
      List.filter_singleton]
    simp [entryOf, last]
  exact ⟨_, split, by rwa [mem_newest_keys uncleared]⟩

/-- **An entry is that of an outcome stored last.** -/
theorem mem_newest (mem : e ∈ newest settings ops) :
    ∃ now after, Latest ops now e.key e.outcome after ∧ e = entryOf settings now e.key e.outcome := by
  induction ops using List.reverseRecOn with
  | nil => cases mem
  | append_singleton ops op ih =>
    rw [newest_snoc] at mem
    -- An operation that leaves the entry comes after it as well.
    have later (kept : e ∈ newest settings ops) (quiet : op ≠ .clear)
        (other : e.key ∉ storedKeys [op]) : ∃ now after,
        Latest (ops ++ [op]) now e.key e.outcome after ∧
          e = entryOf settings now e.key e.outcome := by
      obtain ⟨now, after, ⟨⟨before, rfl⟩, uncleared, last⟩, made⟩ := ih kept
      refine ⟨now, after ++ [op], ⟨⟨before, by simp⟩, ?_, ?_⟩, made⟩
      · simpa [uncleared] using quiet.symm
      · simpa [storedKeys_append, last] using other
    cases op with
    | put now key o =>
      rcases List.mem_append.mp mem with old | new
      · obtain ⟨kept, other⟩ := List.mem_filter.mp old
        exact later kept nofun (by simpa [storedKeys, Operation.key?] using other)
      · cases List.mem_singleton.mp new
        exact ⟨now, [], ⟨⟨ops, rfl⟩, List.not_mem_nil, List.not_mem_nil⟩, rfl⟩
    | get now key => exact later mem nofun List.not_mem_nil
    | clear => cases mem

/-! ## The order of the instants -/

/-- When an operation stores something. -/
def Operation.storedAt? : Operation → Option Nat
  | .put now _ _ => some now
  | .get _ _ | .clear => none

/-- **No two outcomes are stored at one instant.** A clock only goes forward, so the instants grow. -/
def StoredInTurn (ops : List Operation) : Prop :=
  (ops.filterMap Operation.storedAt?).Pairwise (· < ·)

theorem StoredInTurn.of_append (inTurn : StoredInTurn (before ++ after)) : StoredInTurn before := by
  rw [StoredInTurn, List.filterMap_append] at inTurn
  exact (List.pairwise_append.mp inTurn).1

theorem StoredInTurn.lt (inTurn : StoredInTurn (ops ++ [.put now key o])) {t : Nat} {other : String}
    {p : Outcome} (put : .put t other p ∈ ops) : t < now := by
  rw [StoredInTurn, List.filterMap_append] at inTurn
  exact (List.pairwise_append.mp inTurn).2.2 t (List.mem_filterMap.mpr ⟨_, put, rfl⟩) now
    List.mem_cons_self

/-- **The entries stand in the order of the instants** at which they were stored. -/
theorem performAll_ascending (run : (ofSettings settings).performAll ops = some c)
    (inTurn : StoredInTurn ops) : c.entries.Pairwise (·.inserted < ·.inserted) := by
  induction ops using List.reverseRecOn generalizing c with
  | nil =>
    cases run
    exact .nil
  | append_singleton ops op ih =>
    rw [performAll_snoc] at run
    obtain ⟨previous, before, step⟩ := Option.bind_eq_some_iff.mp run
    have ascending := ih before inTurn.of_append
    cases op with
    | put now key o =>
      have left : (without key (previous.makeRoom now key).entries).Sublist previous.entries :=
        List.filter_sublist.trans (makeRoom_sublist previous now key)
      rw [put_entries step, List.pairwise_append]
      refine ⟨ascending.sublist left, List.pairwise_singleton _ _, fun e mem last new => ?_⟩
      obtain ⟨t, put, made⟩ := performAll_mem before e (left.subset mem)
      rw [made, List.mem_singleton.mp new]
      exact inTurn.lt put
    | get now key =>
      cases step
      exact ascending.sublist (get_sublist previous now key)
    | clear =>
      cases step
      exact .nil

/-! ## What the cache holds -/

/-- The end of a list, as long as the bound says, or all of it without a bound. -/
def ending (max : Nat) (entries : List CacheEntry) : List CacheEntry :=
  if max = 0 then entries else entries.drop (entries.length - max)

theorem ending_of_short {max : Nat} {entries : List CacheEntry}
    (short : max = 0 ∨ entries.length ≤ max) : ending max entries = entries := by
  unfold ending
  split
  · rfl
  · next bounded =>
    rw [Nat.sub_eq_zero_of_le (short.resolve_left bounded), List.drop_zero]

/-- An end of that length is the end, whatever stands in front. -/
theorem ending_append {max : Nat} (bounded : max ≠ 0) {front entries : List CacheEntry}
    (long : entries.length = max) : ending max (front ++ entries) = entries := by
  rw [ending, if_neg bounded, List.length_append, long, Nat.add_sub_cancel]
  exact List.drop_left

theorem ending_cut {max : Nat} (bounded : max ≠ 0) (entries : List CacheEntry) :
    ∃ front, entries = front ++ ending max entries ∧
      (front = [] ∨ (ending max entries).length = max) := by
  rw [ending, if_neg bounded]
  refine ⟨entries.take (entries.length - max), (List.take_append_drop _ _).symm, ?_⟩
  rcases Nat.le_total entries.length max with short | long
  · left
    rw [Nat.sub_eq_zero_of_le short, List.take_zero]
  · right
    rw [List.length_drop]
    omega

theorem length_ending_le {max : Nat} (bounded : max ≠ 0) (entries : List CacheEntry) :
    (ending max entries).length ≤ max := by
  rw [ending, if_neg bounded, List.length_drop]
  omega

theorem ending_sublist (max : Nat) (entries : List CacheEntry) :
    (ending max entries).Sublist entries := by
  unfold ending
  split
  · exact List.Sublist.refl _
  · exact List.drop_sublist _ _

/-- An entry is in the end exactly if fewer are behind it than the end is long. -/
theorem mem_ending {max : Nat} {older newer : List CacheEntry} (behind : e ∉ newer) :
    e ∈ ending max (older ++ e :: newer) ↔ max = 0 ∨ newer.length < max := by
  unfold ending
  split
  · next unbounded => simp [unbounded]
  · next bounded =>
    have length : (older ++ e :: newer).length = older.length + (newer.length + 1) := by simp
    constructor
    · intro mem
      refine .inr (Nat.lt_of_not_le fun long => behind ?_)
      have cut : (older ++ e :: newer).length - max =
          older.length + 1 + (newer.length - max) := by omega
      rw [cut, ← List.drop_drop, List.append_cons, List.drop_left' (by simp)] at mem
      exact List.mem_of_mem_drop mem
    · rintro (unbounded | short)
      · exact absurd unbounded bounded
      · rw [List.drop_append_of_le_length (by omega)]
        exact List.mem_append_right _ List.mem_cons_self

/-- **A full cache makes room for one more** by dropping the entry stored longest ago, if the time of
none is over. The entries stand in the order of their instants, so it is the first. -/
theorem put_entries_of_full (bounded : c.settings.maxEntries ≠ 0)
    (full : c.size = c.settings.maxEntries) (absent : ¬ c.Holds key) (distinct : c.Distinct)
    (ascending : c.entries.Pairwise (·.inserted < ·.inserted))
    (live : ∀ e ∈ c.entries, now < e.expires) (h : c.put now key o = some next) :
    next.entries = c.entries.drop 1 ++ [entryOf c.settings now key o] := by
  have kept : c.entries.filter (fun e => now < e.expires) = c.entries :=
    List.filter_eq_self.mpr fun e mem => decide_eq_true (live e mem)
  have one : c.entries.length + 1 - c.settings.maxEntries = 1 := by
    rw [size] at full
    omega
  have room := congrArg entries (makeRoom_of_full now bounded full.ge absent)
  simp only [kept, evict_eq_drop bounded distinct ascending, one] at room
  have others : key ∉ (c.entries.drop 1).map (·.key) := by
    rw [holds_iff_mem] at absent
    exact fun mem => absent (((List.drop_sublist 1 c.entries).map _).subset mem)
  rw [put_entries h, room, without_of_absent others]

theorem put_entries_of_room (room : c.settings.maxEntries = 0 ∨ c.size < c.settings.maxEntries ∨
    c.Holds key) (h : c.put now key o = some next) :
    next.entries = without key c.entries ++ [entryOf c.settings now key o] := by
  rw [put_entries h, makeRoom_of_room room]

/-- **Storing keeps the end.** Where there is room it is the whole list; else the new entry takes the
place of the first in the end, or of the one that its key had there. -/
theorem put_ending {entries : List CacheEntry} (distinct : (entries.map (·.key)).Nodup)
    (ends : c.entries = ending c.settings.maxEntries entries)
    (ascending : c.entries.Pairwise (·.inserted < ·.inserted))
    (live : ∀ e ∈ c.entries, now < e.expires) (h : c.put now key o = some next) :
    next.entries = ending c.settings.maxEntries
      (without key entries ++ [entryOf c.settings now key o]) := by
  by_cases bounded : c.settings.maxEntries = 0
  · rw [put_entries_of_room (.inl bounded) h, ends, ending_of_short (.inl bounded),
      ending_of_short (.inl bounded)]
  obtain ⟨front, cut, whole⟩ := ending_cut bounded entries
  rw [← ends] at cut whole
  have short : c.size ≤ c.settings.maxEntries := by
    rw [size, ends]
    exact length_ending_le bounded entries
  rcases Nat.lt_or_eq_of_le short with room | full
  · -- The list is no longer than its end.
    have same : c.entries = entries := by
      rcases whole with none | long
      · rw [cut, none, List.nil_append]
      · exact absurd long room.ne
    have fits : (without key entries ++ [entryOf c.settings now key o]).length ≤
        c.settings.maxEntries := by
      have fewer : (without key entries).length ≤ entries.length := List.length_filter_le _ _
      rw [size, same] at room
      rw [List.length_append, List.length_singleton]
      omega
    rw [put_entries_of_room (.inr (.inl room)) h, ending_of_short (.inr fits), same]
  · by_cases held : c.Holds key
    · have one : (without key c.entries).length + 1 = c.entries.length := by
        rw [cut, List.map_append] at distinct
        exact length_without distinct.of_append_right (holds_iff_mem.mp held)
      have long : (without key c.entries ++ [entryOf c.settings now key o]).length =
          c.settings.maxEntries := by
        rw [← full, size, ← one, List.length_append, List.length_singleton]
      rw [put_entries_of_room (.inr (.inr held)) h, cut, without_append, List.append_assoc]
      exact (ending_append bounded long).symm
    · have others : without key c.entries = c.entries :=
        without_of_absent (holds_iff_mem.not.mp held)
      have long : (c.entries.drop 1 ++ [entryOf c.settings now key o]).length =
          c.settings.maxEntries := by
        rw [size] at full
        rw [List.length_append, List.length_drop, List.length_singleton]
        omega
      have split : without key entries ++ [entryOf c.settings now key o] =
          (without key front ++ c.entries.take 1) ++
            (c.entries.drop 1 ++ [entryOf c.settings now key o]) := by
        calc without key entries ++ [entryOf c.settings now key o]
          _ = without key front ++ c.entries ++ [entryOf c.settings now key o] := by
            rw [cut, without_append, others]
          _ = without key front ++ (c.entries.take 1 ++ c.entries.drop 1) ++
              [entryOf c.settings now key o] := by rw [List.take_append_drop]
          _ = _ := by simp only [List.append_assoc]
      have different : c.Distinct := by
        rw [Distinct, ends]
        exact distinct.sublist ((ending_sublist _ _).map _)
      rw [put_entries_of_full bounded full held different ascending live h, split]
      exact (ending_append bounded long).symm

/-! ## Runs -/

/-- **The time that outcomes are kept outlasts a run** that begins at an instant. -/
def Outlasts (settings : CacheSettings) (start : Nat) (ops : List Operation) : Prop :=
  ∀ op ∈ ops, ∀ now, op.instant? = some now →
    start ≤ now ∧ now < start + 1000000000 * settings.ttlSeconds

/-- So no entry of the run expires in that time. -/
theorem performAll_lasts (run : (ofSettings settings).performAll ops = some c)
    (outlasts : Outlasts settings start ops) :
    c.LastsUntil (start + 1000000000 * settings.ttlSeconds) := by
  intro e mem
  obtain ⟨now, put, made⟩ := performAll_mem run e mem
  rw [made]
  exact Nat.add_le_add_right (outlasts _ put now rfl).1 _

/-- **A cache that nothing expires in holds the end of the list.** -/
theorem entries_eq_ending (run : (ofSettings settings).performAll ops = some c)
    (inTurn : StoredInTurn ops) (outlasts : Outlasts settings start ops) :
    c.entries = ending settings.maxEntries (newest settings ops) := by
  induction ops using List.reverseRecOn generalizing c with
  | nil =>
    cases run
    exact (ending_of_short (.inr (Nat.zero_le _))).symm
  | append_singleton ops op ih =>
    rw [performAll_snoc] at run
    obtain ⟨previous, before, step⟩ := Option.bind_eq_some_iff.mp run
    have earlier : Outlasts settings start ops := fun op mem =>
      outlasts op (List.mem_append_left _ mem)
    have present := outlasts op (List.mem_append_right _ List.mem_cons_self)
    have ends := ih before inTurn.of_append earlier
    have lasts := performAll_lasts before earlier
    rw [newest_snoc]
    cases op with
    | put now key o =>
      have live : ∀ e ∈ previous.entries, now < e.expires := fun e mem =>
        Nat.lt_of_lt_of_le (present now rfl).2 (lasts e mem)
      have ascending := performAll_ascending before inTurn.of_append
      rw [← performAll_settings before] at ends ⊢
      exact put_ending (newest_distinct ops) ends ascending live step
    | get now key =>
      cases step
      rw [(get_of_lasts lasts (present now rfl).2 key).2, ends]
      rfl
    | clear =>
      cases step
      exact (ending_of_short (.inr (Nat.zero_le _))).symm

/-- **What is found is what was stored last**, as much of it as there is room for. -/
theorem get_eq_some_iff (run : (ofSettings settings).performAll ops = some c)
    (inTurn : StoredInTurn ops) (outlasts : Outlasts settings start ops)
    (early : now < start + 1000000000 * settings.ttlSeconds) :
    (c.get now key).1 = some o ↔ Kept settings ops key o := by
  have ends := entries_eq_ending run inTurn outlasts
  have live : ∀ e ∈ c.entries, now < e.expires := fun e mem =>
    Nat.lt_of_lt_of_le early (performAll_lasts run outlasts e mem)
  have found : (c.get now key).1 = some o ↔ ∃ e ∈ c.entries, e.key = key ∧ e.outcome = o := by
    refine ⟨mem_of_get, ?_⟩
    rintro ⟨e, mem, same, rfl⟩
    have entry := (entry?_eq_some (performAll_distinct run)).mpr ⟨mem, same⟩
    simp only [get, entry, if_pos (live e mem)]
  -- Whether an entry of the list is in its end is told by the keys stored after it.
  have kept {t : Nat} {after : List Operation} (latest : Latest ops t key o after) :
      entryOf settings t key o ∈ c.entries ↔ settings.maxEntries = 0 ∨
        (storedKeys after).toFinset.card < settings.maxEntries := by
    obtain ⟨older, split, behind⟩ := newest_split settings latest
    rw [ends, split, mem_ending (fun mem => behind (List.mem_map_of_mem mem)),
      length_newest latest.2.1]
  rw [found]
  constructor
  · rintro ⟨e, mem, rfl, rfl⟩
    have listed := mem
    rw [ends] at listed
    obtain ⟨t, after, latest, made⟩ := mem_newest ((ending_sublist _ _).subset listed)
    rw [made] at mem
    exact ⟨t, after, latest, (kept latest).mp mem⟩
  · rintro ⟨t, after, latest, room⟩
    exact ⟨_, (kept latest).mpr room, rfl, rfl⟩

/-- **Where outcomes are kept for no time**, nothing is found, and what is looked up is dropped. -/
theorem get_of_expired (run : (ofSettings settings).performAll ops = some c)
    (momentary : settings.ttlSeconds = 0)
    (past : ∀ op ∈ ops, ∀ t, op.instant? = some t → t ≤ now) (key : String) :
    (c.get now key).1 = none ∧ (c.get now key).2.entries = without key c.entries := by
  have lapsed : ∀ e ∈ c.entries, ¬ now < e.expires := by
    intro e mem
    obtain ⟨t, put, made⟩ := performAll_mem run e mem
    have before := past _ put t rfl
    rw [made]
    simp only [entryOf, momentary]
    omega
  cases found : c.entry? key with
  | some e => simp only [get, found, if_neg (lapsed e (List.mem_of_find?_eq_some found)), and_self]
  | none =>
    have absent : key ∉ c.entries.map (·.key) := by
      rw [← holds_iff_mem, holds_iff, found]
      exact Bool.false_ne_true
    simp only [get, found, without_of_absent absent, and_self]

/-- **What is evicted was stored no later than all that stays**, unless its time was over. -/
theorem put_evicts (distinct : c.Distinct) (h : c.put now key o = some next) {gone kept : CacheEntry}
    (mem : gone ∈ c.entries) (live : now < gone.expires) (other : gone.key ≠ key)
    (out : gone ∉ next.entries) (left : kept ∈ next.entries) (old : kept.key ≠ key) :
    gone.inserted ≤ kept.inserted := by
  rw [put_entries h, List.mem_append] at out left
  have gone_out : gone ∉ (c.makeRoom now key).entries := fun inside =>
    out (.inl (List.mem_filter.mpr ⟨inside, bne_iff_ne.mpr other⟩))
  have kept_left : kept ∈ (c.makeRoom now key).entries := by
    rcases left with left | new
    · exact (List.mem_filter.mp left).1
    · exact absurd (congrArg CacheEntry.key (List.mem_singleton.mp new)) old
  by_cases room : c.settings.maxEntries = 0 ∨ c.size < c.settings.maxEntries ∨ c.Holds key
  · rw [makeRoom_of_room room] at gone_out
    exact absurd mem gone_out
  · simp only [not_or, Nat.not_lt] at room
    rw [makeRoom_of_full now room.1 room.2.1 room.2.2] at gone_out kept_left
    exact evict_oldest (distinct.sublist (List.filter_sublist.map _))
      (List.mem_filter.mpr ⟨mem, decide_eq_true live⟩) gone_out kept_left

/-- **A cache keeps what was stored last** in the run that led to it. -/
structure KeepsLast (settings : CacheSettings) (ops : List Operation) (c : Cache) : Prop where
  /-- While nothing expires, an outcome is found exactly if it is among those stored last. -/
  found : StoredInTurn ops → ∀ start now key, Outlasts settings start (ops ++ [.get now key]) →
    ∀ o, (c.get now key).1 = some o ↔ Kept settings ops key o
  /-- Looking it up moves nothing. -/
  unmoved : ∀ start now key, Outlasts settings start (ops ++ [.get now key]) →
    (c.get now key).2.entries = c.entries
  /-- Storing under a key that is held pushes nothing out, and makes that key the last. -/
  renewed : ∀ now key o next, c.Holds key → c.put now key o = some next →
    next.entries = without key c.entries ++ [entryOf settings now key o] ∧
      next.stats.evictions = c.stats.evictions
  /-- Where outcomes are kept for no time, nothing is found and what is looked up is dropped. -/
  momentary : settings.ttlSeconds = 0 → ∀ now,
    (∀ op ∈ ops, ∀ t, op.instant? = some t → t ≤ now) → ∀ key,
      (c.get now key).1 = none ∧ (c.get now key).2.entries = without key c.entries
  /-- What is evicted before its time is over was stored no later than all that stays. -/
  evicts : ∀ now key o next, c.put now key o = some next →
    ∀ gone ∈ c.entries, now < gone.expires → gone.key ≠ key → gone ∉ next.entries →
      ∀ kept ∈ next.entries, kept.key ≠ key → gone.inserted ≤ kept.inserted

/-- **Every run of a cache of any settings keeps what was stored last**, if all that it stores has
its time within the clock. -/
theorem performAll_keepsLast (fits : ∀ op ∈ ops, op.Fits settings) :
    ∃ c, (ofSettings settings).performAll ops = some c ∧ KeepsLast settings ops c := by
  obtain ⟨c, run⟩ := Option.isSome_iff_exists.mp (performAll_isSome.mpr fits)
  have same := performAll_settings run
  have distinct := performAll_distinct run
  refine ⟨c, run, ?_, ?_, ?_, fun momentary _ past => get_of_expired run momentary past, ?_⟩
  · intro inTurn start now key outlasts o
    have early := (outlasts _ (List.mem_append_right _ List.mem_cons_self) now rfl).2
    exact get_eq_some_iff run inTurn (fun op mem => outlasts op (List.mem_append_left _ mem)) early
  · intro start now key outlasts
    have early := (outlasts _ (List.mem_append_right _ List.mem_cons_self) now rfl).2
    have earlier : Outlasts settings start ops := fun op mem =>
      outlasts op (List.mem_append_left _ mem)
    exact (get_of_lasts (performAll_lasts run earlier) early key).2
  · intro now key o next held stored
    rw [put_entries_of_room (.inr (.inr held)) stored, same]
    refine ⟨rfl, ?_⟩
    rw [put_evictions stored, makeRoom_of_room (.inr (.inr held))]
  · intro now key o next stored gone mem live other out kept left old
    exact put_evicts distinct stored mem live other out left old

section Witness

/-- Two outcomes are stored and looked up, the first is stored anew, and then a third. -/
def renewals : List Operation :=
  [.put 0 "a" (.none 0), .put 1 "b" (.none 1), .get 2 "b", .put 3 "a" (.none 2), .put 4 "c" (.none 3)]

/-- With room for two it is the second that is pushed out, and the first has its new outcome. -/
theorem renewals_keepsLast : (∀ op ∈ renewals, op.Fits { maxEntries := 2 }) ∧
    ∃ c, (ofSettings { maxEntries := 2 }).performAll renewals = some c ∧
      (c.get 5 "a").1 = some (.none 2) ∧ (c.get 5 "b").1 = none := by
  have fits : ∀ op ∈ renewals, op.Fits { maxEntries := 2 } := by
    simp only [renewals, List.forall_mem_cons]
    refine ⟨?_, ?_, trivial, ?_, ?_, List.forall_mem_nil _⟩
    all_goals
      unfold Operation.Fits
      decide
  obtain ⟨c, run, keeps⟩ := performAll_keepsLast fits
  have outlasts (key : String) :
      Outlasts { maxEntries := 2 } 0 (renewals ++ [.get 5 key]) := by
    simp [Outlasts, renewals, Operation.instant?]
  have inTurn : StoredInTurn renewals := by
    unfold StoredInTurn
    decide
  refine ⟨fits, c, run, (keeps.found inTurn 0 5 "a" (outlasts "a") _).mpr ?_, ?_⟩
  · exact ⟨3, [.put 4 "c" (.none 3)], ⟨⟨renewals.take 3, rfl⟩, by simp, by decide⟩, .inr (by decide)⟩
  · have gone : ((ofSettings { maxEntries := 2 }).performAll renewals).all
        (fun c => (c.get 5 "b").1.isNone) = true := by decide +kernel
    rw [run] at gone
    exact Option.isNone_iff_eq_none.mp gone

end Witness

end Escalation.Cache
