import Escalation.Number.Binary

/-!
# The fewest digits that read back

A reader rounds a decimal number to the nearest double, so every decimal number in an interval
around a double reads back as it. `shortest` gives the number of fewest digits in that interval,
and of two with equally many the one nearer to the double; where they are equally near, a `Tie` says
which. It looks at grids of 1, 2, … digits: on each only the two neighbours of the double can lie in
the interval.
-/

namespace Escalation.Number

/-- A decimal number `coefficient * 10 ^ exponent`. -/
structure Decimal where
  coefficient : Nat
  exponent : Int
deriving Repr, DecidableEq

/-- Which of two neighbours is taken when they are equally near. -/
inductive Tie where
  /-- The greater one. -/
  | up
  /-- The one whose last digit is even. -/
  | even
deriving DecidableEq, Repr

def Tie.round (tie : Tie) (t place steps : Nat) : Nat :=
  if 2 * place < steps then t
  else if steps < 2 * place then t + 1
  else
    match tie with
    | .up => t + 1
    | .even => t + t % 2

/-- How many decimal digits a number has; zero has one. -/
def digitCount (n : Nat) : Nat :=
  (Nat.toDigits 10 n).length

/-- The least `k` with `num / den < 10 ^ k`, for a positive `num`. -/
def magnitude (num den : Nat) : Int :=
  if den ≤ num then digitCount (num / den)
  else if den % num == 0 && Nat.pow 10 (digitCount (den / num) - 1) == den / num then
    2 - (digitCount (den / num) : Int)
  else 1 - (digitCount (den / num) : Int)

/-- The interval of numbers that round to a double, and the double itself, over one denominator.
Every decimal number in the interval is read back as the double. -/
structure Rounding where
  low : Nat
  value : Nat
  high : Nat
  den : Nat
  closed : Bool
deriving Repr

/-- The interval around `significand * 2 ^ exponent`. Below a power of two the neighbour is half as
far away; the ends round to an even significand. -/
def Rounding.ofBinary (significand : Nat) (exponent : Int) : Rounding :=
  let scale := Nat.pow 2 (exponent - 2).toNat
  let below := if significand == Nat.pow 2 52 && exponent != -1074 then 1 else 2
  { low := (4 * significand - below) * scale
    value := 4 * significand * scale
    high := (4 * significand + 2) * scale
    den := Nat.pow 2 (2 - exponent).toNat
    closed := significand % 2 == 0 }

/-- Whether `t * 10 ^ place` lies in the interval. -/
def Rounding.holds (r : Rounding) (t : Nat) (place : Int) : Bool :=
  let point := t * Nat.pow 10 place.toNat * r.den
  let shift := Nat.pow 10 (-place).toNat
  if r.closed then r.low * shift ≤ point && point ≤ r.high * shift
  else r.low * shift < point && point < r.high * shift

/-- The neighbour of the double on the grid of step `10 ^ place` that lies in the interval, the
nearer one if both do. -/
def Rounding.onGrid? (r : Rounding) (tie : Tie) (place : Int) : Option Nat :=
  let num := r.value * Nat.pow 10 (-place).toNat
  let den := r.den * Nat.pow 10 place.toNat
  let t := num / den
  match r.holds t place, r.holds (t + 1) place with
  | true, true => some (tie.round t (num % den) den)
  | true, false => some t
  | false, true => some (t + 1)
  | false, false => none

def Decimal.stripZeros : Nat → Decimal → Decimal
  | 0, d => d
  | n + 1, d =>
    if d.coefficient % 10 == 0 && d.coefficient != 0 then
      Decimal.stripZeros n ⟨d.coefficient / 10, d.exponent + 1⟩
    else d

/-- The first grid from `digits` digits on, of at most `fuel` grids, with a number in the
interval. -/
def Rounding.search (r : Rounding) (tie : Tie) (top : Int) : (fuel digits : Nat) → Decimal
  | 0, digits =>
    let num := r.value * Nat.pow 10 (digits - top).toNat
    let den := r.den * Nat.pow 10 (top - digits).toNat
    ⟨num / den, top - digits⟩
  | fuel + 1, digits =>
    match r.onGrid? tie (top - digits) with
    | some t => Decimal.stripZeros 18 ⟨t, top - digits⟩
    | none => r.search tie top fuel (digits + 1)

/-- The decimal number of fewest digits that reads back as `significand * 2 ^ exponent`. Seventeen
digits are enough for every double. -/
def shortest (tie : Tie) (significand : Nat) (exponent : Int) : Decimal :=
  if significand == 0 then ⟨0, 0⟩
  else
    let r := Rounding.ofBinary significand exponent
    r.search tie (magnitude r.value r.den) 17 1

end Escalation.Number
