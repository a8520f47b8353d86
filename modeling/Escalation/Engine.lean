import Escalation.Cache
import Escalation.Cache.Fingerprint
import Escalation.Engine.Metrics
import Escalation.Time.Clock

/-!
# The engine

An engine evaluates the registered rules on events. It keeps outcomes in a cache, counts what it
does, and reads the time of day off its clock once for each event. The parts of an engine that an
operation changes are in the engine it gives back.

`Engine.evaluate` may answer from the cache; `Engine.evaluateAll` and what is in
`Escalation.Engine.Profile` never do and change nothing. An outcome that the cache cannot store
makes an evaluation fail.
-/

namespace Escalation

open Time

/-- What rules are evaluated on, but for the time of day: a conversation, what has been decided
about it so far, and what the caller adds. -/
structure Event where
  context : Context
  decision : Decision
  metadata : Attributes
deriving Inhabited

/-- An engine: registered rules, the cache of their outcomes if there is one, the clock that rules
read, and the metrics. How keys are made of bytes is a parameter. -/
structure Engine where
  registry : Registry
  cache : Option Cache
  metrics : Option Metrics
  clock : Timestamp
  offset : Offset
  /-- What keys of the cache are made with. -/
  digest : List UInt8 → String := Sha256.hexDigest
deriving Inhabited

/-- An evaluation failed: its outcome could not be stored, because the clock ends before the
outcome's time does. -/
inductive StoreFault where
  | beyondClock
deriving DecidableEq, Repr

namespace Engine

/-- The time of day that rules read. -/
def timeOfDay (e : Engine) : TimeOfDay :=
  e.offset.timeOfDay e.clock

def scope (e : Engine) (event : Event) : Scope :=
  ⟨event.context, event.decision, event.metadata, e.timeOfDay⟩

/-- The key of an event under the present rules. -/
def key (e : Engine) (event : Event) : String :=
  let rules := e.registry.active
  let scope := e.scope event
  let minute := if rules.hasTimeConditions then some scope.now else none
  e.digest (Fingerprint.preimage scope rules.version minute rules.readsTimestamps)

def recorded (e : Engine) (o : Outcome) (cacheHit : Bool) : Engine :=
  { e with metrics := e.metrics.map (·.record o.isMatch cacheHit o.errors.length 0) }

def walk (e : Engine) (event : Event) : Outcome :=
  e.registry.active.walk .fast (e.scope event)

/-- The outcome of an event at an instant, up to the first rule that matches. With a cache the
outcome is looked up first and stored if it was not there. The lookup is counted and an outcome
that has been kept long enough is dropped even if the new one cannot be stored in the end. -/
def evaluate (e : Engine) (now : Nat) (event : Event) : Except StoreFault Outcome × Engine :=
  match e.cache with
  | none =>
    let o := e.walk event
    (.ok o, e.recorded o false)
  | some cache =>
    let key := e.key event
    match cache.get now key with
    | (some kept, cache) =>
      let e := { e with cache := some cache }
      (.ok { kept with cacheHit := true }, e.recorded kept true)
    | (none, cache) =>
      let e := { e with cache := some cache }
      let o := e.walk event
      match cache.put now key o with
      | none => (.error .beyondClock, e)
      | some cache => (.ok o, { e with cache := some cache }.recorded o false)

/-- The outcome of all rules on an event, with every condition evaluated. The cache is neither
asked nor changed, for its outcomes tell of less. -/
def evaluateAll (e : Engine) (event : Event) : Outcome :=
  e.registry.active.walk .exhaustive (e.scope event)

def clearCache (e : Engine) : Engine :=
  { e with cache := e.cache.map Cache.clear }

def setClock (e : Engine) (clock : Timestamp) : Engine :=
  { e with clock }

/-- A change of the registry that may fail; the engine stays as it is if it does. -/
def change (e : Engine) (f : Registry → Except EngineFault Registry) :
    Except EngineFault UInt64 × Engine :=
  match f e.registry with
  | .ok registry => (.ok registry.version, { e with registry })
  | .error cause => (.error cause, e)

end Engine

end Escalation
