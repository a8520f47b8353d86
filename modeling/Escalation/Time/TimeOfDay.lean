import Escalation.Text.Search
import Escalation.Value

/-!
# Times of day

A minute of the day, from 00:00 to 23:59, and windows of the day from one time to another. A window
whose start is after its end goes over midnight. `TimeOfDay.read` and `TimeWindow.ofValue` accept
the texts that rules are written with; `TimeFault` says what is wrong with the others.
-/

namespace Escalation

/-- Why something is not a time or not a window. A fault quotes what was given. -/
inductive TimeFault where
  | outOfRange (hour minute : Nat)
  | malformed (text : String)
  | notTime (found : Value.Kind)
  | malformedWindow (text : String)
  | notWindow (found : Value.Kind)
deriving DecidableEq, Repr

def twoDigits (n : Nat) : String :=
  if n < 10 then "0" ++ toString n else toString n

def TimeFault.detail : TimeFault → String
  | .outOfRange hour minute => s!"time {twoDigits hour}:{twoDigits minute} is out of range"
  | .malformed text => s!"'{text}' is not an HH:MM time"
  | .notTime found => s!"expected an HH:MM string, got {found.name}"
  | .malformedWindow text => s!"'{text}' is not an HH:MM-HH:MM window"
  | .notWindow found =>
    "BETWEEN expects [\"HH:MM\", \"HH:MM\"] or \"HH:MM-HH:MM\", got " ++ found.name

/-- A minute of the day. -/
structure TimeOfDay where
  minutes : Nat
  minutes_lt : minutes < 1440
deriving DecidableEq, Repr

namespace TimeOfDay

instance : Inhabited TimeOfDay := ⟨⟨0, by decide⟩⟩

def ofHourMinute (hour minute : Nat) : Except TimeFault TimeOfDay :=
  if h : hour < 24 ∧ minute < 60 then .ok ⟨hour * 60 + minute, by omega⟩
  else .error (.outOfRange hour minute)

/-- The minute of the day that a count of minutes falls on. -/
def wrap (minutes : Int) : TimeOfDay :=
  ⟨(minutes % 1440).toNat, by omega⟩

def hour (t : TimeOfDay) : Nat := t.minutes / 60

def minute (t : TimeOfDay) : Nat := t.minutes % 60

def display (t : TimeOfDay) : String :=
  twoDigits t.hour ++ ":" ++ twoDigits t.minute

/-- The hour and minute that a text names: one or two digits, a colon and two digits. -/
def parts? (cs : List Char) : Option (Nat × Nat) :=
  match Text.cutAt ':' cs with
  | some (hour, minute) =>
    if (hour.length == 1 || hour.length == 2) && minute.length == 2 && hour.all Char.isDigit &&
        minute.all Char.isDigit then
      some (Number.digitsValue hour, Number.digitsValue minute)
    else none
  | none => none

/-- The time that a text names between blanks; an hour or a minute that no day has names none. -/
def read (text : String) : Except TimeFault TimeOfDay :=
  match parts? (Text.trimChars text.toList) with
  | some (hour, minute) => (ofHourMinute hour minute).mapError fun _ => .malformed text
  | none => .error (.malformed text)

def ofValue : Value → Except TimeFault TimeOfDay
  | .text s => read s
  | value => .error (.notTime value.kind)

end TimeOfDay

/-- The times from `start` up to, and without, `stop`. -/
structure TimeWindow where
  start : TimeOfDay
  stop : TimeOfDay
deriving DecidableEq, Repr

namespace TimeWindow

def wraps (w : TimeWindow) : Bool :=
  w.stop.minutes < w.start.minutes

/-- Whether a time lies in the window. One that goes over midnight holds the times from its start
to the end of the day, and those before its stop. One that starts when it stops is empty. -/
def contains (w : TimeWindow) (t : TimeOfDay) : Bool :=
  if w.wraps then w.start.minutes ≤ t.minutes || t.minutes < w.stop.minutes
  else w.start.minutes ≤ t.minutes && t.minutes < w.stop.minutes

def display (w : TimeWindow) : String :=
  w.start.display ++ "-" ++ w.stop.display

/-- The window that a value names: a list of two times, or two times with a dash between them. -/
def ofValue : Value → Except TimeFault TimeWindow
  | .list [start, stop] => return ⟨← TimeOfDay.ofValue start, ← TimeOfDay.ofValue stop⟩
  | .text s =>
    match Text.cutAt '-' s.toList with
    | some (start, stop) =>
      return ⟨← TimeOfDay.read (String.ofList start), ← TimeOfDay.read (String.ofList stop)⟩
    | none => .error (.malformedWindow s)
  | value => .error (.notWindow value.kind)

end TimeWindow

end Escalation
