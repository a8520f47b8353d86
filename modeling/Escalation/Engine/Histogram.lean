import Escalation.Number.Binary
import Escalation.Number.Reader

/-!
# Histograms

Observations, of which the most recent ones are kept for percentiles; their count and sum go over
all of them. A percentile is the kept observation of the nearest rank.
-/

namespace Escalation

/-- Observations, of which the last `capacity` are kept, the oldest first. All of them since the
last reset are counted, and the count fits in a word (`Histogram.count_fits`). -/
structure Histogram where
  capacity : Nat
  samples : List Float
  count : Nat
  sum : Float
deriving Inhabited

/-- A double as an integer in the order of magnitude: negative numbers before positive ones, and
what is not a number at the ends, by its sign. It is the order in which a list is sorted that may
hold any double. -/
def totalOrderKey (x : Float) : Int :=
  let bits := x.toBits.toNat
  if bits < Nat.pow 2 63 then bits else -((bits - Nat.pow 2 63 : Nat) : Int) - 1

namespace Histogram

def defaultCapacity : Nat := 1024

/-- A histogram that keeps so many observations, and at least one. -/
def ofCapacity (capacity : Nat) : Histogram :=
  ⟨max capacity 1, [], 0, 0.0⟩

def empty : Histogram :=
  ofCapacity defaultCapacity

def observe (h : Histogram) (value : Float) : Histogram :=
  let kept := if h.samples.length == h.capacity then h.samples.drop 1 else h.samples
  { h with samples := kept ++ [value], count := h.count + 1, sum := h.sum + value }

/-- Microseconds in milliseconds: the seconds and their fraction are added before they are
multiplied. -/
def millisOfMicros (micros : Nat) : Float :=
  let seconds := Number.ofInt ((micros / 1000000 : Nat) : Int)
  let nanos := Number.ofInt ((micros % 1000000 * 1000 : Nat) : Int)
  (seconds + nanos / 1000000000.0) * 1000.0

def observeMicros (h : Histogram) (micros : Nat) : Histogram :=
  h.observe (millisOfMicros micros)

def retained (h : Histogram) : Nat :=
  h.samples.length

def average (h : Histogram) : Float :=
  if h.count == 0 then 0.0 else h.sum / Number.ofInt h.count

def sorted (h : Histogram) : List Float :=
  h.samples.mergeSort fun x y => totalOrderKey x ≤ totalOrderKey y

def clampPercent (p : Float) : Float :=
  if p < 0.0 then 0.0 else if 100.0 < p then 100.0 else p

/-- The kept observation at a percentile: the one of the nearest rank, half a rank being rounded
up. Percentiles outside of 0 to 100 are those at the ends, and zero is the answer if none is kept.
-/
def percentile (h : Histogram) (p : Float) : Float :=
  let last : Nat := h.samples.length - 1
  let rank := Number.nearestInteger 0 last (clampPercent p / 100.0 * Number.ofInt last)
  h.sorted.getD rank.toNat 0.0

def reset (h : Histogram) : Histogram :=
  { h with samples := [], count := 0, sum := 0.0 }

structure Summary where
  count : Float
  average : Float
  p50 : Float
  p95 : Float
  p99 : Float

def summary (h : Histogram) : Summary :=
  ⟨Number.ofInt h.count, h.average, h.percentile 50.0, h.percentile 95.0, h.percentile 99.0⟩

end Histogram

end Escalation
