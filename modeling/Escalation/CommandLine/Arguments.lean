import Escalation.CommandLine.Settings

/-!
# Arguments

What a command line asks for. Options are written `--name value` or `--name=value`; `--rules` takes
every value up to the next option and may be given again, the others are given once. The options
for settings may stand before the command or after it, where they win.

Arguments are read from the left, so a request for help or for the version is answered only if
nothing before it is wrong.
-/

namespace Escalation.CommandLine

inductive Arity where
  | flag
  | one
  | many
deriving DecidableEq, Repr

inductive Accepted where
  | anything
  /-- The name of a file, which is not empty. -/
  | path
  | logFormat
deriving DecidableEq, Repr

/-- An option: how many values it takes, of what sort, and what help says about it. -/
structure Parameter where
  name : String
  arity : Arity
  accepts : Accepted
  /-- Whether a command cannot do without it. -/
  required : Bool
  help : String

def Parameter.shared : List Parameter :=
  [⟨"config", .one, .path, false, "Config file (defaults to config/handoff.* when present)"⟩,
    ⟨"log-level", .one, .anything, false, "Override the configured log level"⟩,
    ⟨"log-format", .one, .logFormat, false,
      "Override the configured log format [possible values: text, json]"⟩]

inductive Verb where
  | route
  | testRule
  | profile
  | validate
deriving DecidableEq, Repr

namespace Verb

def all : List Verb :=
  [route, testRule, profile, validate]

def name : Verb → String
  | route => "route"
  | testRule => "test-rule"
  | profile => "profile"
  | validate => "validate"

def ofName? (word : String) : Option Verb :=
  all.find? (·.name == word)

def about : Verb → String
  | route => "Route an event and print the response"
  | testRule => "Evaluate one registered rule with per-condition detail"
  | profile => "Evaluate every rule and report per-rule cost"
  | validate => "Load and validate rule files"

def parameters : Verb → List Parameter
  | route =>
    [⟨"rules", .many, .path, true, "Rule files, registered in the given order"⟩,
      ⟨"event", .one, .path, true, "Event JSON file, or \x60-\x60 for stdin"⟩,
      ⟨"dry-run", .flag, .anything, false, "Evaluate without applying actions"⟩]
  | testRule =>
    [⟨"rules", .many, .path, true, ""⟩, ⟨"rule", .one, .anything, true, "Rule name"⟩,
      ⟨"event", .one, .path, true, ""⟩]
  | profile => [⟨"rules", .many, .path, true, ""⟩, ⟨"event", .one, .path, true, ""⟩]
  | validate => [⟨"rules", .many, .path, true, ""⟩]

end Verb

abbrev Given := List (String × List String)

namespace Given

def has (given : Given) (name : String) : Bool :=
  given.any (·.1 == name)

def values (given : Given) (name : String) : List String :=
  (given.filter (·.1 == name)).flatMap (·.2)

def value? (given : Given) (name : String) : Option String :=
  (given.values name).getLast?

end Given

/-- Why arguments are not read to their end: a text was asked for, or they make no sense. -/
inductive Stop where
  | help (verb : Option Verb)
  | version
  | misuse
deriving DecidableEq, Repr

namespace Arguments

/-- Whether an argument is an option. A lone dash is a value. -/
def isOption (arg : String) : Bool :=
  arg.startsWith "-" && arg != "-"

def accepts : Accepted → String → Bool
  | .anything, _ => true
  | .path, value => value != ""
  | .logFormat, value => (LogFormat.ofName? value).isSome

def long? (arg : String) : Option (String × Option String) :=
  match arg.toList with
  | '-' :: '-' :: rest =>
    let name := rest.takeWhile (· != '=')
    let attached := match rest.dropWhile (· != '=') with
      | _ :: value => some (String.ofList value)
      | [] => none
    some (String.ofList name, attached)
  | _ => none

def give (given : Given) (p : Parameter) (values : List String) : Except Stop Given :=
  let count := match p.arity with
    | .flag => values.isEmpty
    | .one => values.length == 1
    | .many => !values.isEmpty
  if count && values.all (accepts p.accepts) && (p.arity = .many || !given.has p.name) then
    .ok (given ++ [(p.name, values)])
  else .error .misuse

/-- How many of the arguments that follow are values of an option. -/
def valuesAhead (arity : Arity) (args : List String) : Nat :=
  let values := args.takeWhile (!isOption ·)
  match arity with
  | .flag => 0
  | .one => min 1 values.length
  | .many => values.length

/-- An option that asks for a text. Only before a command is there a version to ask for. -/
def asksFor? (verb : Option Verb) (arg : String) : Option Stop :=
  if arg == "--help" || arg.startsWith "-h" then some (.help verb)
  else if verb.isNone && (arg == "--version" || arg.startsWith "-V") then some .version
  else none

/-- The options at the start of the arguments, and what follows them. -/
def options (verb : Option Verb) (known : List Parameter) : (fuel : Nat) → Given → List String →
    Except Stop (Given × List String)
  | 0, _, _ => .error .misuse
  | _, given, [] => .ok (given, [])
  | fuel + 1, given, arg :: args =>
    if !isOption arg then .ok (given, arg :: args)
    else if arg == "--" then if args.isEmpty then .ok (given, []) else .error .misuse
    else
      match asksFor? verb arg, long? arg with
      | some stop, _ => .error stop
      | none, none => .error .misuse
      | none, some (name, attached) =>
        match known.find? (·.name == name) with
        | none => .error .misuse
        | some p =>
          match attached with
          | some value => do options verb known fuel (← give given p [value]) args
          | none => do
            let n := valuesAhead p.arity args
            options verb known fuel (← give given p (args.take n)) (args.drop n)

/-- What follows the word `help`: nothing, or the command that help is about. -/
def helpAbout : List String → Stop
  | [] => .help none
  | [word] =>
    match Verb.ofName? word with
    | some verb => .help (some verb)
    | none => if word == "help" then .help none else .misuse
  | _ => .misuse

end Arguments

structure Invocation where
  verb : Verb
  given : Given
deriving Repr

namespace Invocation

/-- What a command line asks for. The options for settings that stand after the command win over
those before it. -/
def read (args : List String) : Except Stop Invocation := do
  let fuel := args.length + 1
  let (before, rest) ← Arguments.options none Parameter.shared fuel [] args
  match rest with
  | [] => .error .misuse
  | word :: rest =>
    if word == "help" then .error (Arguments.helpAbout rest)
    else
      match Verb.ofName? word with
      | none => .error .misuse
      | some verb =>
        let known := verb.parameters ++ Parameter.shared
        let (after, rest) ← Arguments.options (some verb) known fuel [] rest
        if rest.isEmpty && verb.parameters.all fun p => !p.required || after.has p.name then
          .ok ⟨verb, before ++ after⟩
        else .error .misuse

def rules (i : Invocation) : List String :=
  i.given.values "rules"

/-- The event file; a dash is the standard input. -/
def event (i : Invocation) : String :=
  (i.given.value? "event").getD "-"

def rule (i : Invocation) : String :=
  (i.given.value? "rule").getD ""

def dryRun (i : Invocation) : Bool :=
  i.given.has "dry-run"

def config? (i : Invocation) : Option String :=
  i.given.value? "config"

/-- The settings with those that the command line gives. -/
def override (i : Invocation) (s : Settings) : Settings :=
  { s with
    logLevel := (i.given.value? "log-level").getD s.logLevel
    logFormat := ((i.given.value? "log-format").bind LogFormat.ofName?).getD s.logFormat }

end Invocation

end Escalation.CommandLine
