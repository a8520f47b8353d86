import Escalation.Time.TimeOfDay
import Escalation.Time.Timestamp

/-!
# Local time of day

Rules about the time of day read the local minute. The offset of the place is a number of seconds,
less than a day. One that is given in minutes is brought to seconds in 32 bits, and if these are no
offset universal time is read instead.
-/

namespace Escalation

open Time

/-- An offset from universal time in seconds, less than a day either way. -/
structure Offset where
  seconds : Int
  within_day : -86400 < seconds ∧ seconds < 86400
deriving DecidableEq, Repr

def Offset.universal : Offset :=
  ⟨0, by decide⟩

instance : Inhabited Offset := ⟨.universal⟩

def Offset.ofSeconds? (seconds : Int) : Option Offset :=
  if h : -86400 < seconds ∧ seconds < 86400 then some ⟨seconds, h⟩ else none

/-- An integer brought into 32 bits: what is beyond them is the last one there is. -/
def saturate32 (n : Int) : Int :=
  max (-2147483648) (min n 2147483647)

/-- The offset of that many minutes; universal time if there is none, because they make a day or
more. -/
def Offset.ofMinutes (minutes : Int) : Offset :=
  (ofSeconds? (saturate32 (minutes * 60))).getD .universal

/-- The time of day that many seconds after midnight, without the seconds. -/
def TimeOfDay.ofSeconds (seconds : Nat) : TimeOfDay :=
  let hour := seconds / 3600
  let minute := seconds / 60 % 60
  .wrap (hour * 60 + minute : Nat)

/-- The time of day at an instant, at a place with that offset. Seconds are dropped, and days go
round. -/
def Offset.timeOfDay (offset : Offset) (now : Timestamp) : TimeOfDay :=
  .ofSeconds (Int.fmod (now.second + offset.seconds) 86400).toNat

/-- That time of day on 1 January 2024, universal time; an hour above 23 and a minute above 59 are
brought down to these. -/
def Time.Timestamp.ofHourMinute (hour minute : Nat) : Timestamp :=
  let date : Date := ⟨2024, 1, 1⟩
  ⟨date.toDays * 86400 + min hour 23 * 3600 + min minute 59 * 60, 0⟩

end Escalation
