/-!
# Words and doubles

What is counted one by one (registrations, lookups, observations) is a natural number in this
library, and the same as in a word of 64 bits as long as fewer than `wordSize` things have been
counted. `UInt64` stands for the words that go round: the version of a registry, which is hashed as
one, and the counters of the metrics, to which any amount may be added.

A finite double is an integer times a power of two. `Binary.ofFloat` reads the sign, the integer
and the exponent off the bits, so that what is written of a number is computed on integers.
-/

namespace Escalation

/-- How many numbers a word of 64 bits tells apart. -/
def wordSize : Nat := Nat.pow 2 64

namespace Number

/-- What a double is: not a number, an infinity, or `significand * 2 ^ exponent` with a sign. -/
inductive Binary where
  | nan
  | infinite (negative : Bool)
  | finite (negative : Bool) (significand : Nat) (exponent : Int)
deriving Repr, DecidableEq

/-- The fields of the bits: one for the sign, eleven for the exponent, the others for the
significand, whose leading bit is left out unless the exponent is the least. -/
def Binary.ofBits (bits : Nat) : Binary :=
  let negative := bits / Nat.pow 2 63 % 2 == 1
  let exponent : Nat := bits / Nat.pow 2 52 % Nat.pow 2 11
  let fraction := bits % Nat.pow 2 52
  if exponent == 2047 then
    if fraction == 0 then .infinite negative else .nan
  else if exponent == 0 then .finite negative fraction (-1074)
  else .finite negative (fraction + Nat.pow 2 52) ((exponent : Int) - 1075)

def Binary.ofFloat (x : Float) : Binary :=
  .ofBits x.toBits.toNat

/-- The integer that the double is, if it is one. Both zeros are the integer zero. -/
def Binary.integer? : Binary → Option Int
  | .finite negative m e =>
    let signed (n : Nat) : Int := if negative then -n else n
    if 0 ≤ e then some (signed (m * Nat.pow 2 e.toNat))
    else
      let den := Nat.pow 2 (-e).toNat
      if m % den == 0 then some (signed (m / den)) else none
  | _ => none

/-- The nearest integer, a half going away from zero, brought into the range from `low` to `high`;
zero for what is not a number. -/
def nearestInteger (low high : Int) (x : Float) : Int :=
  let clamp (n : Int) : Int := max low (min high n)
  match Binary.ofFloat x with
  | .nan => 0
  | .infinite negative => if negative then low else high
  | .finite negative m e =>
    let den := Nat.pow 2 (-e).toNat
    let size : Nat := (2 * m * Nat.pow 2 e.toNat + den) / (2 * den)
    clamp (if negative then -(size : Int) else size)

end Number

end Escalation
