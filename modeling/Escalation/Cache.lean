import Escalation.Outcome

/-!
# The outcome cache

Outcomes kept under their fingerprints, for so long and so many of them as the settings say. An
outcome that has been kept long enough is dropped when it is looked for. When the cache is full, an
outcome under a new key takes the place first of all those that have been kept long enough, then of
those stored longest ago.

Instants are nanoseconds on a clock that only goes forward and ends at `lastInstant`. An outcome
whose time would end after it cannot be stored.
-/

namespace Escalation

/-- How long outcomes are kept, and how many. With a time of zero an outcome has been kept long
enough as soon as it is stored, so the cache never answers. -/
structure CacheSettings where
  ttlSeconds : Nat := 300
  /-- Any number if this is zero. -/
  maxEntries : Nat := 10000
deriving DecidableEq, Repr, Inhabited

/-- What happened to a cache, each thing counted by itself. No count is greater than the number of
operations, so they fit in words (`Cache.Balanced.counts_fit`). -/
structure CacheStats where
  hits : Nat := 0
  misses : Nat := 0
  /-- How many lookups found an outcome that had been kept long enough. -/
  expired : Nat := 0
  evictions : Nat := 0
  inserts : Nat := 0
deriving DecidableEq, Repr, Inhabited

/-- How many of a hundred lookups were hits. -/
def CacheStats.hitRate (s : CacheStats) : Float :=
  if s.hits + s.misses == 0 then 0.0
  else Number.ofInt s.hits / Number.ofInt (s.hits + s.misses : Nat) * 100.0

/-- The end of the clock: the last second that fits in 63 bits. -/
def lastInstant : Nat := Nat.pow 2 63 * 1000000000

/-- An outcome under its key, with the instants between which it may be given again. -/
structure CacheEntry where
  key : String
  outcome : Outcome
  /-- When it was stored. -/
  inserted : Nat
  /-- From this instant on it has been kept long enough. -/
  expires : Nat
deriving Inhabited

/-- Kept outcomes, each key once. A new one goes behind the others, but the order is not looked at:
what has to go is found by its instants. Only of two that were stored at one instant, the one in
front is the first to go. -/
structure Cache where
  settings : CacheSettings
  entries : List CacheEntry
  stats : CacheStats
deriving Inhabited

namespace Cache

def ofSettings (settings : CacheSettings) : Cache :=
  ⟨settings, [], {}⟩

def size (c : Cache) : Nat :=
  c.entries.length

def entry? (c : Cache) (key : String) : Option CacheEntry :=
  c.entries.find? (·.key == key)

def without (key : String) (entries : List CacheEntry) : List CacheEntry :=
  entries.filter (·.key != key)

/-- A lookup: the outcome under a key, unless it has been kept long enough. Every lookup counts as
a hit or as a miss. An outcome that has been kept long enough is found and dropped, which counts
as a miss too. -/
def get (c : Cache) (now : Nat) (key : String) : Option Outcome × Cache :=
  match c.entry? key with
  | some e =>
    if now < e.expires then
      (some e.outcome, { c with stats := { c.stats with hits := c.stats.hits + 1 } })
    else
      (none,
        { c with
          entries := without key c.entries
          stats :=
            { c.stats with expired := c.stats.expired + 1, misses := c.stats.misses + 1 } })
  | none => (none, { c with stats := { c.stats with misses := c.stats.misses + 1 } })

/-- What is left when the entry that was stored first is removed, again and again while there are
as many as `max`, and how many have been removed then, after the `evicted` before. The least
instant is looked for each time, and with the entry goes whatever else has its key. -/
def evict (max : Nat) (entries : List CacheEntry) (evicted : Nat) : List CacheEntry × Nat :=
  if entries.length < max then (entries, evicted)
  else
    match h : entries.minOn? (·.inserted) with
    | some oldest => evict max (without oldest.key entries) (evicted + 1)
    | none => (entries, evicted)
termination_by entries.length
decreasing_by
  exact List.length_filter_lt_length_iff_exists.mpr ⟨oldest, List.minOn?_mem h, by simp⟩

/-- The cache with room for an outcome under that key. Where the key is new and the cache is full,
first everything that has been kept long enough goes, and then what was stored longest ago. -/
def makeRoom (c : Cache) (now : Nat) (key : String) : Cache :=
  let max := c.settings.maxEntries
  if max == 0 || c.entries.length < max || (c.entry? key).isSome then c
  else
    let kept := c.entries.filter fun e => now < e.expires
    let (left, evicted) := evict max kept (c.entries.length - kept.length)
    { c with
      entries := left
      stats := { c.stats with evictions := c.stats.evictions + evicted } }

/-- The cache with an outcome stored under a key, in place of what was stored there. There is none
if the time of the outcome would end after the last instant: the clock cannot tell such an
instant, and the storing fails before anything is changed. -/
def put (c : Cache) (now : Nat) (key : String) (outcome : Outcome) : Option Cache :=
  let expires := now + 1000000000 * c.settings.ttlSeconds
  if expires < lastInstant then
    let c := c.makeRoom now key
    some
      { c with
        entries := without key c.entries ++ [⟨key, outcome, now, expires⟩]
        stats := { c.stats with inserts := c.stats.inserts + 1 } }
  else none

def clear (c : Cache) : Cache :=
  { c with entries := [] }

end Cache

end Escalation
