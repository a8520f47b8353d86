/-!
# Sets of code points as ranges and runs

The character tables list inclusive ranges of code points, and the case tables runs of code points
that move by one distance: neighbouring ones, or every second one. `CaseRun.image?` follows a run
forward, `CaseRun.source?` back. All tables are those of Unicode 15.
-/

namespace Escalation.Text

/-- Inclusive ranges of code points. -/
abbrev Ranges := List (Nat × Nat)

def Ranges.contains (rs : Ranges) (c : Char) : Bool :=
  rs.any fun r => r.1 ≤ c.toNat && c.toNat ≤ r.2

/-- The code points `first`, `first + step`, …, `last`, each moved by `shift`. -/
structure CaseRun where
  first : Nat
  last : Nat
  step : Nat
  shift : Int
deriving Repr

def CaseRun.holds (r : CaseRun) (n : Nat) : Bool :=
  r.first ≤ n && n ≤ r.last && (n - r.first) % r.step == 0

def CaseRun.image? (r : CaseRun) (c : Char) : Option Char :=
  if r.holds c.toNat then some (Char.ofNat (c.toNat + r.shift).toNat) else none

/-- The code point that the run sends to this one, if there is one. -/
def CaseRun.source? (r : CaseRun) (c : Char) : Option Char :=
  let n := (c.toNat : Int) - r.shift
  if 0 ≤ n && r.holds n.toNat then some (Char.ofNat n.toNat) else none

end Escalation.Text
