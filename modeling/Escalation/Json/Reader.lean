import Escalation.Json
import Escalation.Number.Reader

/-!
# Reading JSON text

`Json.read?` reads one document with nothing but blanks around it. It refuses what the grammar
refuses (a leading zero, a trailing comma, a control character in a text, half of a surrogate
pair), numbers beyond the greatest double, and documents nested more than 127 deep. An integer of
at most 64 bits stays an integer; `-0` and longer ones are doubles.

A double is not always the nearest to the decimal that was written. The reader takes as many digits
as fit in 64 bits, makes a double of them, and multiplies or divides it by a power of ten
(`decimal?`), and each of these steps rounds. So a few numbers that were written with the digits
that tell them apart are read as a neighbour. Numbers in texts and in YAML are read by `Number.read?`,
which gives the nearest.
-/

namespace Escalation.Json

def isSpace (c : Char) : Bool :=
  c == ' ' || c == '\n' || c == '\r' || c == '\t'

def skipSpace (cs : List Char) : List Char :=
  cs.dropWhile isSpace

def hexDigit? (c : Char) : Option Nat :=
  if c.isDigit then some (c.toNat - '0'.toNat)
  else if 'a' ≤ c && c ≤ 'f' then some (c.toNat - 'a'.toNat + 10)
  else if 'A' ≤ c && c ≤ 'F' then some (c.toNat - 'A'.toNat + 10)
  else none

def unit? : List Char → Option (Nat × List Char)
  | a :: b :: c :: d :: rest => do
    let a ← hexDigit? a
    let b ← hexDigit? b
    let c ← hexDigit? c
    let d ← hexDigit? d
    some (((a * 16 + b) * 16 + c) * 16 + d, rest)
  | _ => none

/-- What follows `\u`: a code unit, or two that make a pair. -/
def unicodeEscape? (cs : List Char) : Option (Char × List Char) := do
  let (high, rest) ← unit? cs
  if 0xD800 ≤ high && high < 0xDC00 then
    match rest with
    | '\\' :: 'u' :: more =>
      let (low, rest) ← unit? more
      if 0xDC00 ≤ low && low < 0xE000 then
        some (Char.ofNat (0x10000 + (high - 0xD800) * 0x400 + (low - 0xDC00)), rest)
      else none
    | _ => none
  else if 0xDC00 ≤ high && high < 0xE000 then none
  else some (Char.ofNat high, rest)

def escape? : List Char → Option (Char × List Char)
  | 'u' :: rest => unicodeEscape? rest
  | c :: rest =>
    match c with
    | '"' => some ('"', rest)
    | '\\' => some ('\\', rest)
    | '/' => some ('/', rest)
    | 'b' => some (Char.ofNat 8, rest)
    | 'f' => some (Char.ofNat 12, rest)
    | 'n' => some ('\n', rest)
    | 'r' => some ('\r', rest)
    | 't' => some ('\t', rest)
    | _ => none
  | [] => none

/-- The characters up to the closing quote, put in front of those already read, last one first. -/
def stringChars? : (fuel : Nat) → (read : List Char) → List Char → Option (String × List Char)
  | 0, _, _ => none
  | _ + 1, _, [] => none
  | fuel + 1, read, c :: rest =>
    if c == '"' then some (String.ofList read.reverse, rest)
    else if c == '\\' then do
      let (e, rest) ← escape? rest
      stringChars? fuel (e :: read) rest
    else if c.toNat < 0x20 then none
    else stringChars? fuel (c :: read) rest

def string? (cs : List Char) : Option (String × List Char) :=
  stringChars? (cs.length + 1) [] cs

/-- The digits before the point: a single zero or digits that do not start with one. -/
def wholeDigits? (cs : List Char) : Option (List Char × List Char) :=
  match cs.takeWhile Char.isDigit with
  | [] => none
  | '0' :: _ :: _ => none
  | ds => some (ds, cs.dropWhile Char.isDigit)

def placeDigits? : List Char → Option (List Char × List Char)
  | '.' :: rest =>
    match rest.takeWhile Char.isDigit with
    | [] => none
    | ds => some (ds, rest.dropWhile Char.isDigit)
  | cs => some ([], cs)

def exponentDigits? : List Char → Option (Option Int × List Char)
  | [] => some (none, [])
  | c :: cs =>
    if c == 'e' || c == 'E' then
      let (negative, rest) := Escalation.Number.signed cs
      match rest.takeWhile Char.isDigit with
      | [] => none
      | ds =>
        let n : Int := Escalation.Number.digitsValue ds
        some (some (if negative then -n else n), rest.dropWhile Char.isDigit)
    else some (none, c :: cs)

/-- Digits added to a number as long as it fits in 64 bits, and how many are left over. -/
def takeDigits (n : Nat) : List Char → Nat × Nat
  | [] => (n, 0)
  | c :: cs =>
    let more := 10 * n + (c.toNat - '0'.toNat)
    if more < wordSize then takeDigits more cs else (n, cs.length + 1)

def powerOfTen (n : Nat) : Float :=
  Escalation.Number.ofDecimal false 1 n

/-- The double divided by a power of ten, by no greater one than `10 ^ 308` at once. -/
def scaleDown (x : Float) (places : Nat) : Float :=
  if places ≤ 308 then x / powerOfTen places
  else if x == 0.0 then x
  else scaleDown (x / powerOfTen 308) (places - 308)
termination_by places

/-- The double that is read for `coefficient * 10 ^ exponent`, if that is not too great. It is made
in steps that round each on its own, so it need not be the nearest. -/
def decimal? (negative : Bool) (coefficient : Nat) (exponent : Int) : Option Float :=
  let whole := Escalation.Number.ofInt coefficient
  let x :=
    if exponent < 0 then scaleDown whole exponent.natAbs
    else if exponent ≤ 308 then whole * powerOfTen exponent.natAbs
    else if coefficient == 0 then whole
    else 1.0 / 0.0
  (some (if negative then -x else x)).filter (·.isFinite)

/-- A number with its sign. Digits before the point that do not fit any more count as zeros, those
after it not at all. -/
def number? (negative : Bool) (cs : List Char) : Option (Number × List Char) := do
  let (whole, rest) ← wholeDigits? cs
  let (places, rest) ← placeDigits? rest
  let (exponent, rest) ← exponentDigits? rest
  let n := Escalation.Number.digitsValue whole
  let integral := places.isEmpty && exponent.isNone
  if integral && !negative && n < wordSize then some (.integer n, rest)
  else if integral && negative && n != 0 && n ≤ Nat.pow 2 63 then some (.integer (-n), rest)
  else
    let (coefficient, zeros) := takeDigits 0 whole
    let (coefficient, unread) := takeDigits coefficient places
    let scale : Int := zeros - (places.length - unread : Nat)
    (decimal? negative coefficient (exponent.getD 0 + scale)).map fun x => (.real x, rest)

def word? (word : List Char) (json : Json) (cs : List Char) : Option (Json × List Char) :=
  if word.isPrefixOf cs then some (json, cs.drop word.length) else none

mutual
/-- A document at the start of the text, `depth` more levels being allowed. -/
def value? : (fuel depth : Nat) → List Char → Option (Json × List Char)
  | 0, _, _ => none
  | fuel + 1, depth, cs =>
    match skipSpace cs with
    | [] => none
    | '"' :: rest => (string? rest).map fun (s, rest) => (.text s, rest)
    | '[' :: rest =>
      if depth == 0 then none
      else
        match skipSpace rest with
        | ']' :: rest => some (.list [], rest)
        | rest => (valueItems? fuel (depth - 1) [] rest).map fun (items, rest) => (.list items, rest)
    | '{' :: rest =>
      if depth == 0 then none
      else
        match skipSpace rest with
        | '}' :: rest => some (.object [], rest)
        | rest =>
          (valueMembers? fuel (depth - 1) [] rest).map fun (members, rest) =>
            (.object members, rest)
    | '-' :: rest => (number? true rest).map fun (n, rest) => (.number n, rest)
    | 't' :: rest => word? "rue".toList (.bool true) rest
    | 'f' :: rest => word? "alse".toList (.bool false) rest
    | 'n' :: rest => word? "ull".toList .null rest
    | rest => (number? false rest).map fun (n, rest) => (.number n, rest)
def valueItems? : (fuel depth : Nat) → (read : List Json) → List Char →
    Option (List Json × List Char)
  | 0, _, _, _ => none
  | fuel + 1, depth, read, cs => do
    let (item, rest) ← value? fuel depth cs
    match skipSpace rest with
    | ']' :: rest => some ((item :: read).reverse, rest)
    | ',' :: rest => valueItems? fuel depth (item :: read) rest
    | _ => none
def valueMembers? : (fuel depth : Nat) → (read : List (String × Json)) → List Char →
    Option (List (String × Json) × List Char)
  | 0, _, _, _ => none
  | fuel + 1, depth, read, cs =>
    match skipSpace cs with
    | '"' :: rest => do
      let (name, rest) ← string? rest
      match skipSpace rest with
      | ':' :: rest =>
        let (value, rest) ← value? fuel depth rest
        match skipSpace rest with
        | '}' :: rest => some (((name, value) :: read).reverse, rest)
        | ',' :: rest => valueMembers? fuel depth ((name, value) :: read) rest
        | _ => none
      | _ => none
    | _ => none
end

def deepest : Nat := 127

/-- The document that characters denote. Every level takes a character, so twice the number of the
characters bounds the calls. -/
def readChars? (cs : List Char) : Option Json :=
  match value? (2 * cs.length + 2) deepest cs with
  | some (json, rest) => if (skipSpace rest).isEmpty then some json else none
  | none => none

/-- The document that a text denotes, its members as they stand. -/
def read? (s : String) : Option Json :=
  readChars? s.toList

end Escalation.Json
