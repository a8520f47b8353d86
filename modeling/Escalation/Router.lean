import Escalation.Router.Request
import Escalation.Router.Settings
import Escalation.Router.Source

/-!
# The router

A router is an engine with the sources that its rules came from. It is built from a plan, and every
reload loads all sources anew: either all of their rules, followed by those of the plan itself, take
the place of the present ones, or nothing changes.

`Router.route` evaluates a request and applies the actions of the matched rule to the request's own
decision and metadata, whether the outcome was kept or not.
-/

namespace Escalation

/-- What a router is built from: settings, sources of rules besides those of the settings, and
rules that come from no source. All sources are asked in one order when the router is built and
when it is reloaded. -/
structure Plan where
  settings : RouterSettings := {}
  /-- Sources besides the files and texts of the settings. -/
  sources : List Source := []
  /-- Rules that come from no source. -/
  rules : List Rule := []
  clock : Time.Timestamp
deriving Inhabited

def Plan.allSources (p : Plan) : List Source :=
  p.settings.ruleFiles.map .file ++
    p.settings.ruleContents.map (fun (id, content) => .text id .yaml content) ++ p.sources

/-- A router: the sources of its rules, and the engine that holds them. -/
structure Router where
  engine : Engine
  sources : List Source
  /-- The rules that come from no source. They stay after those of the sources. -/
  ownRules : List Rule
deriving Inhabited

namespace Router

/-- The rules of books, followed by others. -/
def gather (books : List RuleBook) (own : List Rule) : List Rule :=
  books.flatMap (·.rules) ++ own

/-- What a registry answers, as an answer of a router. -/
def ofEngine {α : Type} : Except EngineFault α → Except RouterFault α
  | .ok a => .ok a
  | .error cause => .error (.engine cause)

/-- The router of a plan. All sources are loaded, their rules are registered together with those
that come from no source, and the first book settles what the plan says nothing of. The first
failure is the answer. -/
def build (supply : Supply) (plan : Plan) : Except RouterFault Router := do
  let sources := plan.allSources
  let books ← Source.loadAll supply sources
  let registry ← ofEngine (Registry.ofRules (gather books plan.rules))
  return {
    engine :=
      { registry
        cache := (plan.settings.cache? books.head?).map Cache.ofSettings
        metrics := if plan.settings.enableMetrics then some .empty else none
        clock := plan.clock
        offset := .ofMinutes plan.settings.utcOffsetMinutes }
    sources
    ownRules := plan.rules }

def rules (r : Router) : List Rule :=
  r.engine.registry.active.rules

def version (r : Router) : UInt64 :=
  r.engine.registry.version

/-- A change of the rules that may fail; the router stays as it is if it does. -/
def change (r : Router) (f : Registry → Except EngineFault Registry) :
    Except RouterFault UInt64 × Router :=
  let (answer, engine) := r.engine.change f
  (ofEngine answer, { r with engine })

/-- The router with the rules that its sources yield now, and its own rules behind them. Nothing
changes unless every source can be loaded and the rules can be registered together. The cache
keeps the settings that it was built with, whatever the books say now, and its outcomes too, which
no key of another version finds. -/
def reload (r : Router) (supply : Supply) : Except RouterFault UInt64 × Router :=
  if r.sources.isEmpty then (.error .noSources, r)
  else
    match Source.loadAll supply r.sources with
    | .error cause => (.error cause, r)
    | .ok books => r.change (·.replaceAll (gather books r.ownRules))

def evaluate (r : Router) (now : Nat) (event : Event) : Except StoreFault Outcome × Router :=
  let (answer, engine) := r.engine.evaluate now event
  (answer, { r with engine })

def respond (fresh : String) (request : Request) (outcome : Outcome) : Response :=
  let id := request.idOr fresh
  if request.dryRun then ⟨id, outcome, request.handoff, false, [], 0⟩
  else
    let a := request.handoff.applyAll outcome.actions
    ⟨id, outcome, a.handoff, true, a.skipped, 0⟩

/-- The response to a request at an instant, with an id at hand for one that has none. The rules
are evaluated, and the actions of the one that matched are applied to the request unless they are
only to be told. -/
def route (r : Router) (now : Nat) (fresh : String) (request : Request) :
    Except StoreFault Response × Router :=
  let (answer, r) := r.evaluate now request.event
  (answer.map (respond fresh request), r)

def testRegistered (r : Router) (name : String) (event : Event) :
    Except RouterFault RuleTest :=
  match r.engine.registry.active.find? name with
  | some rule => .ok (r.engine.testRule rule event)
  | none => .error (.engine (.ruleNotFound name))

end Router

end Escalation
