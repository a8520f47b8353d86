import Escalation.Form
import Escalation.Number.Layout
import Escalation.Number.Binary
import Escalation.Text.Search

/-!
# Settings of the command line

The settings of a run, and the two ways to read them. The form of settings is strict. A settings
file and variables of the environment are not: names ignore case, and a setting may be given as
another kind of value that says the same, as `yes` for true or `"60"` for 60.
-/

namespace Escalation.CommandLine

open Form

inductive LogFormat where
  | text
  | json
deriving DecidableEq, Repr

namespace LogFormat

def name : LogFormat → String
  | text => "text"
  | json => "json"

def ofName? (word : String) : Option LogFormat :=
  [text, json].find? (·.name == word)

end LogFormat

/-- The settings of a run. Those of the cache, where they are set, win over what the rule files
say. -/
structure Settings where
  logLevel : String := "warn"
  logFormat : LogFormat := .text
  enableCache : Option Bool := none
  cacheTtlSeconds : Option Nat := none
  utcOffsetMinutes : Int := 0
deriving Inhabited, Repr

namespace Settings

/-- The settings of a form. It is strict: every member must be of its type. -/
def ofJson? (json : Json) : Option Settings := do
  let ms ← members? .json json
  let logLevel ← orDefault? ["log_level"] "warn" text? ms
  let logFormat ← orDefault? ["log_format"] .text (word? .json LogFormat.ofName?) ms
  let enableCache ← optional? ["enable_cache"] bool? ms
  let cacheTtlSeconds ← optional? ["cache_ttl_secs"] count? ms
  let utcOffsetMinutes ← orDefault? ["utc_offset_minutes"] 0 int32? ms
  some ⟨logLevel, logFormat, enableCache, cacheTtlSeconds, utcOffsetMinutes⟩

/-- The form of settings. -/
def toJson (s : Settings) : Json :=
  .object
    [("log_level", .text s.logLevel), ("log_format", .text s.logFormat.name),
      ("enable_cache", orNull .bool s.enableCache),
      ("cache_ttl_secs", orNull .ofNat s.cacheTtlSeconds),
      ("utc_offset_minutes", .ofInt s.utcOffsetMinutes)]

/-! ## Values that say the same -/

def greatestInt : Int := 9223372036854775807

def leastInt : Int := -9223372036854775808

def greatestCount : Int := (wordSize - 1 : Nat)

/-- The truth value that a word names, whatever the case of its letters. -/
def wordTruth? (word : String) : Option Bool :=
  let word := Text.lowerAscii word
  if ["true", "on", "yes"].contains word then some true
  else if ["false", "off", "no"].contains word then some false
  else none

/-- The integer that a text writes out, with a sign if it likes. -/
def writtenInteger? (s : String) : Option Int :=
  let (negative, ds) := Number.signed s.toList
  if ds.isEmpty || !ds.all Char.isDigit then none
  else
    let n : Int := Number.digitsValue ds
    some (if negative then -n else n)

def within? (low high n : Int) : Option Int :=
  if low ≤ n && n ≤ high then some n else none

/-- What a setting says about yes or no. -/
def looseBool? : Json → Option Bool
  | .bool b => some b
  | .number (.integer n) => some (n != 0)
  | .number (.real x) => some (x != 0.0)
  | .text s => if s == "1" then some true else if s == "0" then some false else wordTruth? s
  | _ => none

def looseInteger? (low high : Int) : Json → Option Int
  | .bool b => some (if b then 1 else 0)
  | .number (.integer n) =>
    if n ≤ greatestInt then within? low high n
    else some (Number.nearestInteger low high (Number.ofInt n))
  | .number (.real x) => some (Number.nearestInteger low high x)
  | .text s =>
    match wordTruth? s with
    | some b => some (if b then 1 else 0)
    | none => if low == 0 && s.startsWith "-" then none
              else (writtenInteger? s).bind (within? low high)
  | _ => none

def looseText? : Json → Option String
  | .bool b => some (if b then "true" else "false")
  | .number (.integer n) =>
    some (if n ≤ greatestInt then toString n else Number.Layout.plain.render (Number.ofInt n))
  | .number (.real x) => some (Number.Layout.plain.render x)
  | .text s => some s
  | _ => none

def looseFormat? (json : Json) : Option LogFormat :=
  (text? json).bind fun word => LogFormat.ofName? (Text.lowerAscii word)

/-! ## Layers -/

/-- Settings by name as one place gives them. Nothing is checked before the layers are put
together. -/
abbrev Layer := List (String × Json)

def ofFile? : Json → Option Layer
  | .object members => some (members.map fun (name, value) => (Text.lowerAscii name, value))
  | _ => none

/-- What the names of variables begin with. -/
def variableStart : String := "handoff_"

/-- The value of a variable: a truth value, an integer, a double or a text. -/
def ofVariable (value : String) : Json :=
  let word := Text.lowerAscii value
  if word == "true" then .bool true
  else if word == "false" then .bool false
  else
    match (writtenInteger? value).bind (within? leastInt greatestInt) with
    | some n => .ofInt n
    | none =>
      match Number.read? value.toList with
      | some x => .ofFloat x
      | none => .text value

def ofEnvironment (environment : List (String × String)) : Layer :=
  environment.filterMap fun (name, value) =>
    let name := Text.lowerAscii name
    if name.startsWith variableStart then
      some ((name.drop variableStart.length).toString, ofVariable value)
    else none

/-- What a layer says about a setting; the last of several counts. -/
def Layer.find? (layer : Layer) (name : String) : Option Json :=
  (layer.reverse.find? (·.1 == name)).map (·.2)

/-- The settings of a layer, a missing one being that of a run without any. An integer of more
than 32 bits goes round. -/
def ofLayer? (layer : Layer) : Option Settings := do
  let read {α : Type} (name : String) (default : α) (read : Json → Option α) : Option α :=
    match layer.find? name with
    | some json => read json
    | none => some default
  let logLevel ← read "log_level" "warn" looseText?
  let logFormat ← read "log_format" .text looseFormat?
  let enableCache ← read "enable_cache" none (nullable? looseBool?)
  let ttl ← read "cache_ttl_secs" none (nullable? (looseInteger? 0 greatestCount))
  let offset ← read "utc_offset_minutes" 0 (looseInteger? leastInt greatestInt)
  some ⟨logLevel, logFormat, enableCache, ttl.map Int.toNat, Int.bmod offset (Nat.pow 2 32)⟩

end Settings

end Escalation.CommandLine
