import Escalation.Number.Shortest

/-!
# Writing numbers

The digits of a number come from `shortest`; a `Layout` says how they are set out. `plain` is the
layout of messages: always positional, whole numbers without a point. `document` is the layout of
JSON documents: a point or an exponent always shows that the number is not an integer.
-/

namespace Escalation.Number

/-- How the digits of a number are set out. Every layout writes the fewest digits that tell the
number apart; they differ in where the point stands and in the words for what is not finite. -/
structure Layout where
  /-- Positional notation is used when the exponent of the leading digit is in this range; the
  exponent form is used otherwise. -/
  positional : Int → Bool
  /-- What follows the digits of a whole number in positional notation. -/
  wholeSuffix : String
  /-- Which digits are taken where two choices are as good. -/
  tie : Tie
  /-- The text of a number that is none. -/
  nan : String
  /-- The text of infinity and of its negative. -/
  infinity : Bool → String

/-- Numbers in messages: positional whatever the size. -/
def Layout.plain : Layout :=
  ⟨fun _ => true, "", .up, "NaN", fun negative => if negative then "-inf" else "inf"⟩

/-- Numbers in JSON documents, which have no text for what is not finite. -/
def Layout.document : Layout :=
  ⟨fun e => -5 ≤ e && e < 16, ".0", .even, "null", fun _ => "null"⟩

/-- Digits with the point before the last `places` of them. -/
def withPoint (digits : List Char) (places : Nat) : String :=
  let padded := List.replicate (places + 1 - digits.length) '0' ++ digits
  let whole := padded.length - places
  String.ofList (padded.take whole ++ '.' :: padded.drop whole)

def Layout.digits (l : Layout) (d : Decimal) : String :=
  let ds := Nat.toDigits 10 d.coefficient
  let leading := d.exponent + ds.length - 1
  if l.positional leading then
    if 0 ≤ d.exponent then
      String.ofList (ds ++ List.replicate d.exponent.toNat '0') ++ l.wholeSuffix
    else withPoint ds (-d.exponent).toNat
  else
    let mantissa :=
      match ds with
      | first :: second :: rest => String.ofList (first :: '.' :: second :: rest)
      | one => String.ofList one
    let sign := if leading < 0 then "-" else "+"
    mantissa ++ "e" ++ sign ++ toString leading.natAbs

def Layout.render (l : Layout) (x : Float) : String :=
  match Binary.ofFloat x with
  | .nan => l.nan
  | .infinite negative => l.infinity negative
  | .finite negative m e => (if negative then "-" else "") ++ l.digits (shortest l.tie m e)

end Escalation.Number
