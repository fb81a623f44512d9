import KeywordCatalog.CommandLine.Task
import KeywordCatalog.Fault.Message
import KeywordCatalog.Snapshot

/-!
# The command line

`scan` or `index`, followed by the words that the program of that name reads. The world is a
snapshot on the standard input. The files that are there afterwards are printed as one document; a
fault is reported on the error output.
-/

namespace KeywordCatalog

/-- The folder that the files of a snapshot are in. -/
def workingFolder : String := "/"

/-- The task of a command line. -/
def Task.ofCommandLine : List String → Except Fault Task
  | "scan" :: texts => Task.scan texts
  | "index" :: texts => Task.index texts
  | _ => .error CommandLine.wrongUse

/-- The code that the command line ends with. -/
def Fault.exitCode : Fault → UInt32
  | .exit code => code.toUInt32
  | _ => 1

/-- Runs a command line on a world: what is printed, and the fault if there is one. A command line
that never ends has no report. -/
def Task.report? (texts : List String) (w : World) : Option (String × Option Fault) :=
  let ended :=
    match Task.ofCommandLine texts with
    | .ok task => task.run.exec w
    | .error fault => some (.error fault, w)
  ended.map fun (result, w') =>
    let fault := match result with
      | .ok () => none
      | .error fault => some fault
    ((Snapshot.files w'.store ["."]).render, fault)

end KeywordCatalog

open KeywordCatalog

/-- Reads a snapshot, runs the command line on it and prints the files. -/
def main (arguments : List String) : IO UInt32 := do
  let input ← (← IO.getStdin).readToEnd
  match Value.parse input with
  | .error _ =>
    IO.eprintln "the standard input is no snapshot"
    return 2
  | .ok snapshot =>
    match Task.report? arguments (Snapshot.world workingFolder snapshot) with
    | none => return 1
    | some (files, fault) =>
      IO.println files
      match fault with
      | none => return 0
      | some fault =>
        IO.eprintln (fault.message?.getD "failed")
        return fault.exitCode
