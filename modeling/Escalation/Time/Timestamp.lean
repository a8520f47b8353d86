import Escalation.Number.Reader
import Escalation.Text.Search
import Escalation.Time.Calendar

/-!
# Timestamps

An instant in whole seconds since 1 January 1970, universal time, and nanoseconds. A leap second is
the second before it with a thousand million nanoseconds more.

`Timestamp.read?` reads a date, a time and an offset; blanks may stand between the parts, and a
blank may take the place of the `T`. `Timestamp.render` writes them with as many triples of decimal
places as are needed.
-/

namespace Escalation.Time

/-- An instant: the seconds from the beginning of 1970, and the nanoseconds of the second. A leap
second has more nanoseconds than there are in a second. -/
structure Timestamp where
  second : Int
  nano : Nat
deriving DecidableEq, Repr, Inhabited

def nanosPerSecond : Nat := 1000000000

/-! ## Writing -/

def padded (width n : Nat) : String :=
  let ds := Nat.toDigits 10 n
  String.ofList (List.replicate (width - ds.length) '0' ++ ds)

/-- A year: four digits, with a sign outside the years 0 to 9999. -/
def renderYear (year : Int) : String :=
  if 0 ≤ year && year ≤ 9999 then padded 4 year.toNat
  else (if year < 0 then "-" else "+") ++ padded 4 year.natAbs

/-- The decimal places of a second: none, three, six or nine. -/
def renderFraction (nano : Nat) : String :=
  if nano == 0 then ""
  else if nano % 1000000 == 0 then "." ++ padded 3 (nano / 1000000)
  else if nano % 1000 == 0 then "." ++ padded 6 (nano / 1000)
  else "." ++ padded 9 nano

def Timestamp.renderWith (universal : String) (t : Timestamp) : String :=
  let date := Date.ofDays (Int.fdiv t.second 86400)
  let ofDay := (Int.fmod t.second 86400).toNat
  let second := ofDay % 60 + t.nano / nanosPerSecond
  renderYear date.year ++ "-" ++ padded 2 date.month ++ "-" ++ padded 2 date.day ++ "T" ++
    padded 2 (ofDay / 3600) ++ ":" ++ padded 2 (ofDay / 60 % 60) ++ ":" ++ padded 2 second ++
    renderFraction (t.nano % nanosPerSecond) ++ universal

def Timestamp.render (t : Timestamp) : String :=
  t.renderWith "Z"

/-- The form that rules and keys read, with a numeric offset. -/
def Timestamp.renderOffset (t : Timestamp) : String :=
  t.renderWith "+00:00"

/-! ## Reading -/

def digits? (most : Nat) (cs : List Char) : Option (Nat × List Char) :=
  match (cs.take most).takeWhile Char.isDigit with
  | [] => none
  | ds => some (Number.digitsValue ds, cs.drop ds.length)

def pair? (cs : List Char) : Option (Nat × List Char) :=
  digits? 2 (Text.trimStart cs)

/-- A year after blanks: up to four digits, or a sign and any number of digits. -/
def year? (cs : List Char) : Option (Int × List Char) :=
  match Text.trimStart cs with
  | '-' :: rest => (digits? rest.length rest).map fun (n, rest) => (-(n : Int), rest)
  | '+' :: rest => (digits? rest.length rest).map fun (n, rest) => ((n : Int), rest)
  | rest => (digits? 4 rest).map fun (n, rest) => ((n : Int), rest)

def mark? (mark : Char) (cs : List Char) : Option (List Char) :=
  match Text.trimStart cs with
  | c :: rest => if c == mark then some rest else none
  | [] => none

/-- The nanoseconds after a point, if there is a point. Places after the ninth are dropped. -/
def fraction? : List Char → Option (Nat × List Char)
  | '.' :: rest =>
    match rest.takeWhile Char.isDigit with
    | [] => none
    | ds =>
      let kept := ds.take 9
      some (Number.digitsValue kept * Nat.pow 10 (9 - kept.length), rest.dropWhile Char.isDigit)
  | cs => some (0, cs)

/-- An offset in seconds: `Z`, `UTC`, or a sign, two digits of hours and two of minutes, with
colons or blanks between them. -/
def offset? (cs : List Char) : Option (Int × List Char) :=
  if (cs.take 3).map Char.toLower == ['u', 't', 'c'] then some (0, cs.drop 3)
  else
    match cs with
    | 'Z' :: rest | 'z' :: rest => some (0, rest)
    | sign :: h :: h' :: rest =>
      if (sign == '+' || sign == '-' || sign == '−') && h.isDigit && h'.isDigit then
        match rest.dropWhile fun c => c == ':' || Text.isBlank c with
        | m :: m' :: rest =>
          if m.isDigit && m'.isDigit && Number.digitsValue [m] < 6 then
            let seconds : Int := Number.digitsValue [h, h'] * 3600 + Number.digitsValue [m, m'] * 60
            some (if sign == '+' then seconds else -seconds, rest)
          else none
        | _ => none
      else none
    | _ => none

/-- The instant that a text denotes. The date must be in the calendar, the time of day must be
below 24:00 with a second of at most 60, and the offset must be less than a day. -/
def Timestamp.read? (s : String) : Option Timestamp := do
  let (year, rest) ← year? s.toList
  let rest ← mark? '-' rest
  let (month, rest) ← pair? rest
  let rest ← mark? '-' rest
  let (day, rest) ← pair? rest
  let rest ←
    match rest with
    | 'T' :: rest | 't' :: rest | ' ' :: rest => some rest
    | _ => none
  let (hour, rest) ← pair? rest
  let rest ← mark? ':' rest
  let (minute, rest) ← pair? rest
  let rest ← mark? ':' rest
  let (second, rest) ← pair? rest
  let (nano, rest) ← fraction? rest
  let (offset, rest) ← offset? (Text.trimStart rest)
  let date : Date := ⟨year, month, day⟩
  if (Text.trimStart rest).isEmpty && date.isValid && -262143 ≤ year && year ≤ 262142 &&
      hour < 24 && minute < 60 && second ≤ 60 && offset.natAbs < 86400 then
    let leap : Nat := if second == 60 then 1 else 0
    let ofDay : Nat := hour * 3600 + minute * 60 + (second - leap)
    some ⟨date.toDays * 86400 + ofDay - offset, nano + leap * nanosPerSecond⟩
  else none

end Escalation.Time
