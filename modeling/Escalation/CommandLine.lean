import Escalation.CommandLine.Command
import Escalation.CommandLine.Environment
import Escalation.CommandLine.Help

/-!
# The command line

A run from its arguments to its output and exit code: 0 for an answer, 1 for a failure, 2 for
arguments that make no sense. Settings come from a file, which variables of the environment
override, and these the command line. A `.env` file adds variables that are not set.
-/

namespace Escalation.CommandLine

/-- The settings file that is read if no other is asked for and it is there. -/
def defaultSettingsFile : String := "config/handoff.json"

def variablesFile : String := ".env"

def withJsonEnding (path : String) : String :=
  let backwards := path.toList.reverse
  let name := backwards.takeWhile (· != '/')
  let stem := match Text.cutAt '.' name with
    | some (_, stem) => if stem.isEmpty then name else stem
    | none => name
  String.ofList (backwards.drop name.length).reverse ++ String.ofList stem.reverse ++ ".json"

/-- What a settings file says, unless it is no JSON file or is missing where it is asked for. -/
def settingsLayer? (host : Host) : Option String → Option Settings.Layer
  | none =>
    match host.file? defaultSettingsFile with
    | some content => (Json.read? content).bind fun json => Settings.ofFile? json.lastWins
    | none => some []
  | some path =>
    let content :=
      match host.file? path with
      | some content => if path.endsWith ".json" then some content else none
      | none => host.file? (withJsonEnding path)
    content.bind fun content =>
      (Json.read? content).bind fun json => Settings.ofFile? json.lastWins

def allVariables (host : Host) : Variables :=
  match host.file? variablesFile with
  | some content => Variables.addFile host.environment content
  | none => host.environment

/-- The settings of a run. A variable wins over the file, and a file that is missing is no fault
unless it was asked for. -/
def loadSettings (host : Host) (path : Option String) : Option Settings :=
  (settingsLayer? host path).bind fun layer =>
    Settings.ofLayer? (layer ++ Settings.ofEnvironment (allVariables host))

/-- How a run ends: its exit code and what it writes to the two outputs. -/
structure Ending where
  exitCode : UInt32
  output : String := ""
  errors : List String := []

def CommandFault.lines (fault : CommandFault) : List String :=
  fault.context.toList ++ (fault.cause.map RouterFault.message).toList

/-- The exit code of an evaluation that failed. Nothing is answered then. -/
def brokenCode : UInt32 := 101

/-- A run of a command. The settings are read first, then the command does its work with them. -/
def perform (host : Host) (i : Invocation) : Ending :=
  match loadSettings host i.config? with
  | none => { exitCode := 1, errors := ["Failed to load config"] }
  | some settings =>
    match answer host (i.override settings) i with
    | .ok json => { exitCode := 0, output := json.arranged.renderIndented ++ "\n" }
    | .error (.store _) => { exitCode := brokenCode, errors := ["the clock ends too early"] }
    | .error cause => { exitCode := 1, errors := cause.lines }

/-- A run, from its arguments. Help and the version are answered without a look at anything else. -/
def run (host : Host) (args : List String) : Ending :=
  match Invocation.read args with
  | .ok i => perform host i
  | .error (.help verb) => { exitCode := 0, output := Help.text verb }
  | .error .version => { exitCode := 0, output := versionText ++ "\n" }
  | .error .misuse => { exitCode := 2, errors := ["For more information, try '--help'."] }

/-- The files that a run may read. -/
def filesOf (args : List String) : List String :=
  match Invocation.read args with
  | .error _ => []
  | .ok i =>
    let settings := match i.config? with
      | some path => [path, withJsonEnding path]
      | none => [defaultSettingsFile]
    variablesFile :: settings ++ i.rules ++ [i.event]

/-- The variables that a run may read. -/
def variablesOf : List String :=
  ["HANDOFF_LOG_LEVEL", "HANDOFF_LOG_FORMAT", "HANDOFF_ENABLE_CACHE", "HANDOFF_CACHE_TTL_SECS",
    "HANDOFF_UTC_OFFSET_MINUTES"]

end Escalation.CommandLine
