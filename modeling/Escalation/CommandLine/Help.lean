import Escalation.CommandLine.Arguments

/-!
# Help

The texts that the command line prints when it is asked for help or for its version.
-/

namespace Escalation.CommandLine

def versionText : String := "handoff 0.1.0"

namespace Help

/-- What stands for a value of an option: its name in capitals, but for files and levels. -/
def placeholder (p : Parameter) : String :=
  match p.name with
  | "config" => "FILE"
  | "log-level" => "LEVEL"
  | name => String.ofList (name.toList.map fun c => if c == '-' then '_' else c.toUpper)

def usageOf (p : Parameter) : String :=
  match p.arity with
  | .flag => "--" ++ p.name
  | .one => s!"--{p.name} <{placeholder p}>"
  | .many => s!"--{p.name} <{placeholder p}>..."

def rows (entries : List (String × String)) : List String :=
  let width := entries.foldl (fun w e => max w e.1.length) 0
  entries.map fun (left, right) =>
    if right == "" then left
    else left ++ String.ofList (List.replicate (width - left.length + 2) ' ') ++ right

def entry (p : Parameter) : String × String :=
  ("      " ++ usageOf p, p.help)

/-- Options in the order of help: as they are declared, those in the same place by name. -/
def interleave : List Parameter → List Parameter → List Parameter
  | [], others => others
  | ps, [] => ps
  | p :: ps, q :: others =>
    (if p.name < q.name then [p, q] else [q, p]) ++ interleave ps others

def helpEntry : String × String :=
  ("  -h, --help", "Print help")

def program : List String :=
  ["Escalation rule routing engine", "", "Usage: handoff [OPTIONS] <COMMAND>", "", "Commands:"] ++
    rows
      (Verb.all.map (fun v => ("  " ++ v.name, v.about)) ++
        [("  help", "Print this message or the help of the given subcommand(s)")]) ++
    ["", "Options:"] ++
    rows (Parameter.shared.map entry ++ [helpEntry, ("  -V, --version", "Print version")])

def command (verb : Verb) : List String :=
  let needed := (verb.parameters.filter (·.required)).map usageOf
  [verb.about, "", " ".intercalate (["Usage: handoff", verb.name, "[OPTIONS]"] ++ needed), "",
      "Options:"] ++
    rows ((interleave verb.parameters Parameter.shared).map entry ++ [helpEntry])

def text (verb : Option Verb) : String :=
  String.join ((verb.elim program command).map (· ++ "\n"))

end Help

end Escalation.CommandLine
