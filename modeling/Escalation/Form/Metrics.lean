import Escalation.Cache
import Escalation.Engine.Metrics
import Escalation.Form
import Escalation.Number.Layout

/-!
# Forms of metrics

How counters, histograms and the numbers of a cache stand in documents. A double that is not finite
is written as the word for it, so that an average of nothing can be told from no average.
-/

namespace Escalation

namespace Form

/-- A measured double, or the word for one that is not finite. -/
def measure (x : Float) : Json :=
  if x.isFinite then .ofFloat x else .text (Number.Layout.plain.render x)

def ofWord (n : UInt64) : Json :=
  .ofNat n.toNat

end Form

open Form

def CacheStats.toJson (s : CacheStats) : Json :=
  .object
    [("hits", .ofNat s.hits), ("misses", .ofNat s.misses), ("expired", .ofNat s.expired),
      ("evictions", .ofNat s.evictions), ("inserts", .ofNat s.inserts),
      ("hit_rate", measure s.hitRate)]

def Histogram.Summary.toJson (s : Histogram.Summary) : Json :=
  .object
    [("count", measure s.count), ("avg", measure s.average), ("p50", measure s.p50),
      ("p95", measure s.p95), ("p99", measure s.p99)]

def Metrics.toJson (m : Metrics) : Json :=
  .object
    [("counters", .object (m.counters.map fun (name, n) => (name, ofWord n))),
      ("histograms", .object (m.histograms.map fun (name, h) => (name, h.summary.toJson)))]

end Escalation
