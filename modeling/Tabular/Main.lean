import Tabular.Program.Run
/-!
# The command line

Reads the files that the options name, runs the program, writes the saved view, and prints the
output.
-/

namespace Tabular.Main

/-- The text of a file, none if it cannot be read. -/
def readFile? (path : String) : IO (Option String) := do
  try return some (← IO.FS.readFile path)
  catch _ => return none

/-- The files that a run reads, and the standard input if it is among them. -/
def inputs (o : Options) : IO Inputs := do
  let paths := o.records :: (o.fields?.toList ++ o.view?.toList)
  let files ← paths.mapM fun path => do return (path, ← readFile? path)
  let standardInput ←
    if paths.contains standardInputPath then (← IO.getStdin).readToEnd else pure ""
  return { file? := fun path => (files.lookup path).join, standardInput }

/-- Reports a failure. -/
def fail (message : String) (code : Nat) : IO UInt32 := do
  IO.eprint (errorLine message)
  return code.toUInt32

/-- Writes the saved view of an outcome, and prints its output. -/
def present (outcome : Outcome) : IO UInt32 := do
  match outcome.saved? with
  | some (path, text) =>
    try IO.FS.writeFile path text
    catch _ => return (← fail (FileError.unwritable path).message failureExitCode)
  | none => pure ()
  IO.print outcome.output
  return 0

end Tabular.Main

open Tabular in
/-- Runs the program with the arguments of its command line. -/
def main (args : List String) : IO UInt32 := do
  match Request.ofArguments args with
  | .error e => Main.fail e.message usageExitCode
  | .ok .showVersion => IO.print versionLine; return 0
  | .ok .showHelp => IO.print helpText; return 0
  | .ok (.run o) =>
    match run o (← Main.inputs o) none false with
    | .error e => Main.fail e.message failureExitCode
    | .ok outcome => Main.present outcome
