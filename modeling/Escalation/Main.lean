import Escalation.CommandLine
import Std.Time.DateTime.Timestamp

/-!
# The program

Reads what a run may need, runs it, and prints how it ends.
-/

namespace Escalation.Program

def contentOf (path : String) : IO (Option (String × String)) := do
  try
    return some (path, ← IO.FS.readFile path)
  catch _ =>
    return none

def valueOf (name : String) : IO (Option (String × String)) := do
  return (← IO.getEnv name).map (name, ·)

def allInput : IO String := do
  (← IO.getStdin).readToEnd

/-- What a run with those arguments finds: the files and variables that it may read, looked up
once, and the instant at which it begins. -/
def hostFor (args : List String) : IO CommandLine.Host := do
  let paths := CommandLine.filesOf args
  let files := (← paths.mapM contentOf).filterMap id
  let stdin ← if paths.contains "-" then allInput else pure ""
  let now ← Std.Time.Timestamp.now
  let clock : Time.Timestamp :=
    ⟨now.toSecondsSinceUnixEpoch.val, now.val.nano.val.toNat⟩
  return {
    file? := fun path => files.lookup path
    stdin
    environment := (← CommandLine.variablesOf.mapM valueOf).filterMap id
    clock
    freshId := Request.freshId clock (← IO.rand 0 (Nat.pow 2 24 - 2)) }

end Escalation.Program

open Escalation in
def main (args : List String) : IO UInt32 := do
  let ending := CommandLine.run (← Program.hostFor args) args
  IO.print ending.output
  for line in ending.errors do
    IO.eprintln line
  return ending.exitCode
