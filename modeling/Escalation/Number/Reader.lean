import Escalation.Text.Search
import Escalation.Number.Binary

/-!
# Reading numbers

`ofDecimal` is the double nearest to a decimal number. `Number.read?` reads the number that a text
denotes: digits with at most one point, an exponent, or a word for infinity or for what is not a
number, each with an optional sign. Only the digits 0 to 9 count, and nothing may stand around
them.
-/

namespace Escalation.Number

def digitsValue (cs : List Char) : Nat :=
  cs.foldl (fun n c => 10 * n + (c.toNat - '0'.toNat)) 0

/-- The double nearest to `coefficient * 10 ^ exponent`: infinity beyond the greatest double, zero
below half of the least one. -/
def ofDecimal (negative : Bool) (coefficient : Nat) (exponent : Int) : Float :=
  let size := (Nat.toDigits 10 coefficient).length + exponent
  let magnitude : Float :=
    if coefficient == 0 || size < -400 then 0.0
    else if 400 < size then 1.0 / 0.0
    else Float.ofScientific coefficient (exponent < 0) exponent.natAbs
  if negative then -magnitude else magnitude

def ofInt (n : Int) : Float :=
  ofDecimal (n < 0) n.natAbs 0

/-- A sign that may stand in front, and what follows it. -/
def signed : List Char → Bool × List Char
  | '+' :: cs => (false, cs)
  | '-' :: cs => (true, cs)
  | cs => (false, cs)

def exponent? : List Char → Option Int
  | [] => some 0
  | c :: cs =>
    if c == 'e' || c == 'E' then
      let (negative, ds) := signed cs
      if ds.isEmpty || !ds.all Char.isDigit then none
      else some (if negative then -(digitsValue ds : Int) else digitsValue ds)
    else none

/-- Digits with at most one point, and an exponent. At least one digit stands before the
exponent. -/
def unsigned? (negative : Bool) (cs : List Char) : Option Float :=
  let whole := cs.takeWhile Char.isDigit
  let rest := cs.dropWhile Char.isDigit
  let (places, rest) :=
    match rest with
    | '.' :: more => (more.takeWhile Char.isDigit, more.dropWhile Char.isDigit)
    | _ => ([], rest)
  if whole.isEmpty && places.isEmpty then none
  else
    (exponent? rest).map fun e =>
      ofDecimal negative (digitsValue (whole ++ places)) (e - places.length)

/-- The number that the characters denote, as the nearest double: digits with at most one point
and an exponent, or a word for what is not finite. Nothing may stand around it, not even blanks. -/
def read? (cs : List Char) : Option Float :=
  let (negative, rest) := signed cs
  let word := String.ofList (rest.map Char.toLower)
  if word == "inf" || word == "infinity" then some (if negative then -(1.0 / 0.0) else 1.0 / 0.0)
  else if word == "nan" then some (0.0 / 0.0)
  else unsigned? negative rest

end Escalation.Number
