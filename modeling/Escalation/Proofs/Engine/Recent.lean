import Escalation.Engine.Histogram
import Mathlib.Data.List.DropRight
import Mathlib.Data.List.GetD
import Mathlib.Data.List.Induction

/-!
# The recent observations

A histogram observes and is reset, in any order (`Operation`). Its history says what it holds: the
observations since the last reset (`sinceReset`), of which the last ones are kept, as many as there is
room for (`window`). A histogram `Remembers` observations if it keeps their window and has their
number and their sum, the terms taken in the order in which they came. Each observation and each reset
keeps that up, so every run does (`performAll_remembers`).

A percentile is taken from the window alone, whatever was counted and summed beside it
(`percentile_congr`), and it is one of the kept observations: the rank does not lead out of them
(`percentile_mem`).

Neither the room that is asked for nor the count is limited here. The memory for the kept observations
is taken to be there.
-/

namespace Escalation

/-- A nearest integer is within its bounds, and so is the zero that stands for what is no number. -/
theorem Number.nearestInteger_within {low high : Int} (least : low ≤ 0) (greatest : 0 ≤ high)
    (x : Float) : low ≤ nearestInteger low high x ∧ nearestInteger low high x ≤ high := by
  unfold nearestInteger
  dsimp only
  split
  · exact ⟨least, greatest⟩
  · split <;> omega
  · omega

namespace Histogram

/-- What can be done to a histogram. -/
inductive Operation where
  | observe (value : Float)
  | reset

/-- The value that an operation observes. -/
def Operation.value? : Operation → Option Float
  | observe value => some value
  | reset => none

/-- The histogram after an operation. -/
def perform (h : Histogram) : Operation → Histogram
  | .observe value => h.observe value
  | .reset => h.reset

/-- The histogram after a list of operations, one after the other. -/
def performAll (h : Histogram) (ops : List Operation) : Histogram :=
  ops.foldl perform h

/-! ## What the history says -/

/-- The observations since the last reset, the oldest first. -/
def sinceReset (ops : List Operation) : List Float :=
  (ops.rtakeWhile (·.value?.isSome)).filterMap Operation.value?

/-- The last observations, as many as fit, and at least one if there is one. -/
def window (capacity : Nat) (observed : List Float) : List Float :=
  observed.rtake (min observed.length (max capacity 1))

variable {h other : Histogram} {capacity : Nat} {ops : List Operation} {observed : List Float}
  {value : Float}

theorem sinceReset_observe : sinceReset (ops ++ [.observe value]) = sinceReset ops ++ [value] := by
  rw [sinceReset, List.rtakeWhile_concat_pos _ _ _ rfl, List.filterMap_append]
  rfl

theorem sinceReset_reset : sinceReset (ops ++ [.reset]) = [] := by
  rw [sinceReset, List.rtakeWhile_concat_neg _ _ _ Bool.false_ne_true]
  rfl

theorem length_sinceReset_le (ops : List Operation) : (sinceReset ops).length ≤ ops.length :=
  Nat.le_trans (List.length_filterMap_le _ _) (List.rtakeWhile_suffix _ _).length_le

theorem length_window : (window capacity observed).length = min observed.length (max capacity 1) := by
  rw [window, List.rtake, List.length_drop]
  omega

theorem window_eq_nil : window capacity observed = [] ↔ observed = [] := by
  rw [← List.length_eq_zero_iff, length_window, ← List.length_eq_zero_iff]
  omega

/-- Where there is room, an observation is added to the window. -/
theorem window_of_room (room : observed.length < max capacity 1) :
    window capacity (observed ++ [value]) = window capacity observed ++ [value] := by
  have size : min (observed ++ [value]).length (max capacity 1) = observed.length + 1 := by
    rw [List.length_append, List.length_singleton]
    omega
  have whole : min observed.length (max capacity 1) = observed.length := by omega
  rw [window, window, size, whole, List.rtake_concat_succ]

/-- Where there is none, the first of the window goes. -/
theorem window_of_full (full : max capacity 1 ≤ observed.length) :
    window capacity (observed ++ [value]) = (window capacity observed).drop 1 ++ [value] := by
  obtain ⟨others, one⟩ : ∃ others, max capacity 1 = others + 1 := ⟨max capacity 1 - 1, by omega⟩
  rw [one] at full
  have size : min (observed ++ [value]).length (others + 1) = others + 1 := by
    rw [List.length_append, List.length_singleton]
    omega
  have shorter : (observed.rtake (others + 1)).drop 1 = observed.rtake others := by
    have start : observed.length - (others + 1) + 1 = observed.length - others := by omega
    rw [List.rtake, List.rtake, List.drop_drop, start]
  rw [window, window, one, size, Nat.min_eq_right full, List.rtake_concat_succ, shorter]

/-! ## What a histogram holds -/

/-- **A histogram remembers observations**: it keeps the last of them, counts them all, and has added
them up from the first to the last. -/
structure Remembers (h : Histogram) (capacity : Nat) (observed : List Float) : Prop where
  bound : h.capacity = max capacity 1
  samples : h.samples = window capacity observed
  count : h.count = observed.length
  sum : h.sum = observed.foldl (· + ·) 0.0

theorem remembers_nil : (ofCapacity capacity).Remembers capacity [] :=
  ⟨rfl, rfl, rfl, rfl⟩

theorem Remembers.observe (remembers : h.Remembers capacity observed) :
    (h.observe value).Remembers capacity (observed ++ [value]) := by
  obtain ⟨bound, samples, count, sum⟩ := remembers
  refine ⟨bound, ?_, ?_, ?_⟩
  · -- What is kept never outgrows the room, so it has the length of the room exactly when it is full.
    have length : h.samples.length = min observed.length (max capacity 1) := by
      rw [samples, length_window]
    rw [Histogram.observe]
    by_cases full : max capacity 1 ≤ observed.length
    · have last : (h.samples.length == h.capacity) = true := by
        rw [length, bound, Nat.min_eq_right full, beq_self_eq_true]
      rw [window_of_full full, ← samples]
      simp only [last, if_true]
    · have room : (h.samples.length == h.capacity) = false := by
        rw [length, bound, beq_eq_false_iff_ne]
        omega
      rw [window_of_room (Nat.lt_of_not_le full), ← samples]
      simp only [room, Bool.false_eq_true, if_false]
  · rw [Histogram.observe, List.length_append, count, List.length_singleton]
  · rw [Histogram.observe, List.foldl_append, sum, List.foldl_cons, List.foldl_nil]

theorem Remembers.reset (remembers : h.Remembers capacity observed) :
    h.reset.Remembers capacity [] :=
  ⟨remembers.bound, rfl, rfl, rfl⟩

/-- **After any run a histogram remembers what it has observed since the last reset.** -/
theorem performAll_remembers (capacity : Nat) (ops : List Operation) :
    ((ofCapacity capacity).performAll ops).Remembers capacity (sinceReset ops) := by
  -- From the end of the history: the last operation is done to what remembers the others.
  induction ops using List.reverseRecOn with
  | nil => exact remembers_nil
  | append_singleton ops op ih =>
    rw [performAll, List.foldl_append]
    cases op with
    | observe value =>
      rw [sinceReset_observe]
      exact ih.observe
    | reset =>
      rw [sinceReset_reset]
      exact ih.reset

/-- **The count of a histogram fits in a word** as long as fewer operations than that have been
done. -/
theorem count_fits (capacity : Nat) (few : ops.length < wordSize) :
    ((ofCapacity capacity).performAll ops).count < wordSize := by
  have observed : (sinceReset ops).length ≤ ops.length := length_sinceReset_le ops
  rw [(performAll_remembers capacity ops).count]
  exact Nat.lt_of_le_of_lt observed few

/-! ## Percentiles -/

/-- A percentile is taken from the kept observations alone. -/
theorem percentile_congr (same : h.samples = other.samples) (p : Float) :
    h.percentile p = other.percentile p := by
  simp only [percentile, sorted, same]

/-- **A percentile is one of the kept observations.** -/
theorem percentile_mem (kept : h.samples ≠ []) (p : Float) : h.percentile p ∈ h.samples := by
  let last : Nat := h.samples.length - 1
  let rank : Int := Number.nearestInteger 0 last (clampPercent p / 100.0 * Number.ofInt last)
  have one : 0 < h.samples.length := List.length_pos_iff.mpr kept
  have length : h.sorted.length = h.samples.length := List.length_mergeSort _
  have within : rank ≤ last :=
    (Number.nearestInteger_within (Int.le_refl 0) (Int.natCast_nonneg last) _).2
  have inside : rank.toNat < h.sorted.length := by omega
  have found : h.percentile p = h.sorted[rank.toNat] := List.getD_eq_getElem _ _ inside
  rw [found]
  exact List.mem_mergeSort.mp (List.getElem_mem inside)

/-- **A histogram holds the recent history exactly.** It keeps the last observations since the last
reset, in their order, and counts and sums all of them; percentiles are taken from those that it keeps
and are among them, so histograms that keep the same have the same percentiles, however much room
they have and whatever came before. -/
theorem recent_exact :
    (∀ capacity ops, ((ofCapacity capacity).performAll ops).Remembers capacity (sinceReset ops)) ∧
    (∀ capacity ops p, sinceReset ops ≠ [] →
      ((ofCapacity capacity).performAll ops).percentile p ∈ window capacity (sinceReset ops)) ∧
    ∀ capacity capacity' ops ops',
      window capacity (sinceReset ops) = window capacity' (sinceReset ops') →
      ∀ p, ((ofCapacity capacity).performAll ops).percentile p =
        ((ofCapacity capacity').performAll ops').percentile p := by
  refine ⟨performAll_remembers, fun capacity ops p some => ?_,
    fun capacity capacity' ops ops' same p => ?_⟩
  · have samples := (performAll_remembers capacity ops).samples
    rw [← samples]
    refine percentile_mem (fun none => some ?_) p
    rw [samples] at none
    exact window_eq_nil.mp none
  · refine percentile_congr ?_ p
    rw [(performAll_remembers capacity ops).samples, (performAll_remembers capacity' ops').samples,
      same]

/-- Of three observations after a reset the last two are kept where there is room for two. They are
those of a histogram with room for five that has observed nothing else, and the middle is the same. -/
theorem pair_recent :
    let narrow : List Operation := [.observe 9.0, .reset, .observe 1.0, .observe 2.0, .observe 3.0]
    let wide : List Operation := [.observe 2.0, .observe 3.0]
    sinceReset narrow ≠ [] ∧ window 2 (sinceReset narrow) = window 5 (sinceReset wide) ∧
      ((ofCapacity 2).performAll narrow).count = 3 ∧
      ((ofCapacity 2).performAll narrow).samples = [2.0, 3.0] ∧
      ((ofCapacity 2).performAll narrow).percentile 50.0 ∈ [2.0, 3.0] ∧
      ((ofCapacity 2).performAll narrow).percentile 50.0 =
        ((ofCapacity 5).performAll wide).percentile 50.0 := by
  intro narrow wide
  have three : sinceReset narrow = [1.0, 2.0, 3.0] := rfl
  have two : window 2 (sinceReset narrow) = [2.0, 3.0] := by rw [three]; rfl
  have same : window 2 (sinceReset narrow) = window 5 (sinceReset wide) := by rw [two]; rfl
  have some : sinceReset narrow ≠ [] := by rw [three]; exact List.cons_ne_nil _ _
  obtain ⟨remembers, among, alike⟩ := recent_exact
  have count := (remembers 2 narrow).count
  have samples := (remembers 2 narrow).samples
  have percentile := among 2 narrow 50.0 some
  rw [three] at count
  rw [two] at samples percentile
  exact ⟨some, same, count, samples, percentile, alike 2 5 narrow wide same 50.0⟩

end Histogram

end Escalation
