import Escalation.Cache
import Escalation.Form
import Escalation.Rule.Book

/-!
# Settings of a router

What a router is built from besides rules. Where a setting of the cache is left open, the first rule
book decides, and where there is no book, the default.
-/

namespace Escalation

open Form

/-- The settings of a router, from a file or a host: where rules come from, the settings of the
cache as far as they are to differ from those of the first rule book, and the clock. -/
structure RouterSettings where
  ruleFiles : List String := []
  /-- Rule books in memory, each with the name that errors call it by. -/
  ruleContents : List (String × String) := []
  enableCache : Option Bool := none
  cacheTtlSeconds : Option Nat := none
  cacheMaxEntries : Option Nat := none
  /-- How many minutes local time is ahead of universal time. -/
  utcOffsetMinutes : Int := 0
  enableMetrics : Bool := true
deriving Inhabited

namespace RouterSettings

def hasSources (s : RouterSettings) : Bool :=
  !s.ruleFiles.isEmpty || !s.ruleContents.isEmpty

/-- The settings of the cache, unless there is to be none. What the settings of the router leave
open the first rule book says; a book that wants no cache has its way only then. -/
def cache? (s : RouterSettings) (first : Option RuleBook) : Option CacheSettings :=
  let defaults : RuleBook := {}
  let book := first.getD defaults
  if s.enableCache.getD book.enableCaching then
    some
      ⟨s.cacheTtlSeconds.getD book.cacheTtlSeconds, s.cacheMaxEntries.getD book.cacheMaxEntries⟩
  else none

def ofJson? (json : Json) : Option RouterSettings := do
  let ms ← members? .json json
  let ruleFiles ← orDefault? ["rule_files"] [] (list? .json text?) ms
  let enableCache ← optional? ["enable_cache"] bool? ms
  let cacheTtlSeconds ← optional? ["cache_ttl_secs"] count? ms
  let cacheMaxEntries ← optional? ["cache_max_entries"] count? ms
  let utcOffsetMinutes ← orDefault? ["utc_offset_minutes"] 0 int32? ms
  let enableMetrics ← orDefault? ["enable_metrics"] true bool? ms
  some
    { ruleFiles, enableCache, cacheTtlSeconds, cacheMaxEntries, utcOffsetMinutes, enableMetrics }

def toJson (s : RouterSettings) : Json :=
  .object
    [("rule_files", listOf .text s.ruleFiles), ("enable_cache", orNull .bool s.enableCache),
      ("cache_ttl_secs", orNull .ofNat s.cacheTtlSeconds),
      ("cache_max_entries", orNull .ofNat s.cacheMaxEntries),
      ("utc_offset_minutes", .ofInt s.utcOffsetMinutes), ("enable_metrics", .bool s.enableMetrics)]

end RouterSettings

end Escalation
