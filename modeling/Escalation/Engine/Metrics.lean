import Escalation.Engine.Histogram
import Escalation.Keyed

/-!
# Metrics

Named counters and histograms. Asking for a name creates what it names. Counters are words of 64
bits and go round.
-/

namespace Escalation

/-- Counters and histograms by name. There is no list of names: a counter that nobody has raised
is zero, and a histogram that nobody has added to is empty. -/
structure Metrics where
  counters : List (String × UInt64)
  histograms : List (String × Histogram)
deriving Inhabited

namespace Metrics

def empty : Metrics :=
  ⟨[], []⟩

/-! ## Names -/

def evaluations : String := "routing.evaluations"
def matchCount : String := "routing.matches"
def noMatch : String := "routing.no_match"
def cacheHits : String := "routing.cache_hits"
def ruleErrors : String := "routing.rule_errors"
def latency : String := "routing.evaluation_latency"

/-! ## Counters and histograms -/

def counter (m : Metrics) (name : String) : UInt64 :=
  (Keyed.find? name m.counters).getD 0

def histogram (m : Metrics) (name : String) : Histogram :=
  (Keyed.find? name m.histograms).getD .empty

def setCounter (m : Metrics) (name : String) (value : UInt64) : Metrics :=
  { m with counters := Keyed.insert name value m.counters }

def setHistogram (m : Metrics) (name : String) (h : Histogram) : Metrics :=
  { m with histograms := Keyed.insert name h m.histograms }

def add (m : Metrics) (name : String) (by_ : UInt64) : Metrics :=
  m.setCounter name (m.counter name + by_)

def increment (m : Metrics) (name : String) : Metrics :=
  m.add name 1

def observe (m : Metrics) (name : String) (value : Float) : Metrics :=
  m.setHistogram name ((m.histogram name).observe value)

/-- The metrics with an evaluation more, that took so many microseconds. Each is a match or none,
whether it came from the cache or not; errors are counted one by one. -/
def record (m : Metrics) (isMatch cacheHit : Bool) (errors : Nat) (micros : Nat) : Metrics :=
  let m := m.increment evaluations
  let m := m.increment (if isMatch then matchCount else noMatch)
  let m := if cacheHit then m.increment cacheHits else m
  let m := if errors == 0 then m else m.add ruleErrors errors.toUInt64
  m.setHistogram latency ((m.histogram latency).observeMicros micros)

def resetAll (m : Metrics) : Metrics :=
  ⟨m.counters.map fun e => (e.1, 0), m.histograms.map fun e => (e.1, e.2.reset)⟩

end Metrics

end Escalation
