import Escalation.CommandLine.Arguments
import Escalation.Form.Registry
import Escalation.Router

/-!
# Commands

What the commands do: they load rules into a router, read an event, and answer with a document. The
rules are loaded first, so of two failures theirs is told.
-/

namespace Escalation.CommandLine

/-- What a run finds around it. The files and the variables are looked up before it begins, so the
run itself is a function of them. -/
structure Host where
  /-- The content of a file, if it can be read. -/
  file? : String → Option String
  stdin : String := ""
  environment : List (String × String) := []
  clock : Time.Timestamp
  /-- The id of a request that has none. -/
  freshId : String

/-- Why a command gives no answer. A failed evaluation is no failure of the router, and ends the
run in its own way. -/
inductive CommandFault where
  | noRules
  | rules (cause : RouterFault)
  | eventFile (path : String)
  | eventForm
  | router (cause : RouterFault)
  /-- The evaluation itself failed. -/
  | store (cause : StoreFault)
deriving Repr

/-- What the command was about when it failed, in words. -/
def CommandFault.context : CommandFault → Option String
  | .noRules => some "at least one --rules file is required"
  | .rules _ => some "failed to load rules"
  | .eventFile path => some ("failed to read event file " ++ path)
  | .eventForm => some "event must be a JSON object with a \x60context\x60 field"
  | .router _ | .store _ => none

/-- The failure behind that, if it is one of the router. -/
def CommandFault.cause : CommandFault → Option RouterFault
  | .rules cause | .router cause => some cause
  | .noRules | .eventFile _ | .eventForm | .store _ => none

/-- The router of rule files. -/
def buildRouter (host : Host) (settings : Settings) (rules : List String) :
    Except CommandFault Router :=
  if rules.isEmpty then .error .noRules
  else
    let plan : Plan :=
      { settings :=
          { ruleFiles := rules
            enableCache := settings.enableCache
            cacheTtlSeconds := settings.cacheTtlSeconds
            utcOffsetMinutes := settings.utcOffsetMinutes }
        clock := host.clock }
    (Router.build ⟨host.file?, fun id => .error (.load id)⟩ plan).mapError .rules

def readEvent (host : Host) (path : String) : Except CommandFault Request :=
  let content := if path == "-" then some host.stdin else host.file? path
  match content with
  | none => .error (.eventFile path)
  | some content =>
    match (Json.read? content).bind (Request.ofJson? host.clock) with
    | some request => .ok request
    | none => .error .eventForm

def route (host : Host) (router : Router) (request : Request) (dryRun : Bool) :
    Except CommandFault Json :=
  let request := { request with dryRun := request.dryRun || dryRun }
  ((router.route 0 host.freshId request).1.map Response.toJson).mapError .store

def testRule (router : Router) (rule : String) (request : Request) : Except CommandFault Json :=
  ((router.testRegistered rule request.event).map RuleTest.toJson).mapError .router

def profile (router : Router) (request : Request) : Json :=
  (router.engine.profile request.event).toJson

def summaryOf (rule : Rule) : Json :=
  .object
    [("name", .text rule.name), ("priority", .ofInt rule.priority), ("enabled", .bool rule.enabled),
      ("conditions", .ofNat rule.conditions.length), ("actions", .ofNat rule.actions.length)]

/-- The summary of the rules in the order of evaluation, and the version of the rules. -/
def summary (router : Router) : Json :=
  .object
    [("valid", .bool true), ("rules", .ofNat router.rules.length),
      ("registry_version", .ofNat router.version.toNat),
      ("order", .list (router.rules.map summaryOf))]

/-- The answer of a command. Rules are loaded by every command, and the event is read only after
them. -/
def answer (host : Host) (settings : Settings) (i : Invocation) : Except CommandFault Json := do
  let router ← buildRouter host settings i.rules
  match i.verb with
  | .route => route host router (← readEvent host i.event) i.dryRun
  | .testRule => testRule router i.rule (← readEvent host i.event)
  | .profile => return profile router (← readEvent host i.event)
  | .validate => return summary router

end Escalation.CommandLine
