import Mathlib

/-!
# The order of doubles

Two doubles that are numbers are in order one way round or the other: one is less than the other
exactly if the other is not at most the first (`lt_eq_not_le`). What is not a number stands in no
order to anything (`unordered`), and of all doubles only such a one differs from itself
(`beq_self_eq`).

The first two are laws of the unpacked double, by its cases. Two finite ones are compared by sign,
then by exponent and then by mantissa; what is compared last turns round as a whole
(`swap_magnitudes`).
-/

namespace Escalation.Number

open Float.Model

/-! ## Unpacked doubles -/

theorem swap_magnitudes (m n : Nat) (e f : Int) :
    (compare f e).then (compare n m) = ((compare e f).then (compare m n)).swap := by
  rw [Ordering.swap_then, Int.compare_swap, Nat.compare_swap]

theorem unpacked_lt_eq_not_le {a b : UnpackedFloat} (ha : a.isNaN = false) (hb : b.isNaN = false) :
    b.lt a = !a.le b := by
  have turned : ∀ o : Ordering, (some o.swap == some .lt) = !Option.any (·.isLE) (some o) := by
    intro o
    cases o <;> rfl
  cases a with
  | notANumber => cases ha
  | infinity s =>
    cases b with
    | notANumber => cases hb
    | infinity t => cases s <;> cases t <;> rfl
    | zero t | finite t m e pos => cases s <;> rfl
  | zero s =>
    cases b with
    | notANumber => cases hb
    | infinity t | finite t m e pos => cases t <;> rfl
    | zero t => rfl
  | finite s m e pos =>
    cases b with
    | notANumber => cases hb
    | infinity t => cases s <;> cases t <;> rfl
    | zero t => cases s <;> rfl
    | finite t n f pos' =>
      have swap := swap_magnitudes m n e f
      cases s <;> cases t
      case negative.positive | positive.negative => rfl
      all_goals
        simp only [UnpackedFloat.lt, UnpackedFloat.le, UnpackedFloat.compare, swap]
        exact turned _

theorem unpacked_unordered {a b : UnpackedFloat} (h : a.isNaN = true ∨ b.isNaN = true) :
    a.lt b = false ∧ a.le b = false := by
  have none : a.compare b = none := by
    cases a <;> cases b <;> first | rfl | (rcases h with h | h <;> cases h)
  rw [UnpackedFloat.lt, UnpackedFloat.le, none]
  exact ⟨rfl, rfl⟩

/-! ## Doubles -/

variable {x y : Float}

theorem decide_lt (x y : Float) : decide (x < y) = x.toModel.unpack.lt y.toModel.unpack := by
  rw [Bool.eq_iff_iff, decide_eq_true_eq]
  change decide (x.toModel < y.toModel) = true ↔ _
  rw [decide_eq_true_eq]
  exact Iff.rfl

theorem decide_le (x y : Float) : decide (x ≤ y) = x.toModel.unpack.le y.toModel.unpack := by
  rw [Bool.eq_iff_iff, decide_eq_true_eq]
  change decide (x.toModel ≤ y.toModel) = true ↔ _
  rw [decide_eq_true_eq]
  exact Iff.rfl

/-- **Of two numbers one is less than the other exactly if the other is not at most the first.** -/
theorem lt_eq_not_le (hx : x.isNaN = false) (hy : y.isNaN = false) :
    decide (y < x) = !decide (x ≤ y) := by
  rw [decide_lt, decide_le]
  exact unpacked_lt_eq_not_le hx hy

/-- **What is not a number is in no order.** -/
theorem unordered (h : x.isNaN = true ∨ y.isNaN = true) :
    decide (x < y) = false ∧ decide (x ≤ y) = false := by
  rw [decide_lt, decide_le]
  exact unpacked_unordered h

theorem isNaN_of_isFinite (finite : x.isFinite = true) : x.isNaN = false := by
  change x.toModel.unpack.isFinite = true at finite
  change x.toModel.unpack.isNaN = false
  cases unpacked : x.toModel.unpack with
  | notANumber | infinity =>
    rw [unpacked] at finite
    cases finite
  | zero | finite => rfl

/-- **A number equals itself**, and what is not a number does not. -/
theorem beq_self_eq (x : Float) : (x == x) = !x.isNaN := by
  rw [Bool.eq_iff_iff, Float.beq_self_iff, Float.isNaN_eq_decide_eq_nan, Bool.not_eq_true',
    decide_eq_false_iff_not]

end Escalation.Number
