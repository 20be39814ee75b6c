import Chip8.CommandLine.Arguments
import Chip8.CommandLine.FileFault

/-!
# What a program leaves behind

A command line program ends with an exit code and two texts, one for its results and one for its
troubles.

## What is here

* `Report` — code and texts.
* `Report.usageError`, `Report.help`, `Report.failed` — the reports of programs that did not get to
  their work.
* `Plan` — a report, or a file that has to be read for one, and `Plan.carryOut`, the report.
-/

set_option autoImplicit false

namespace Chip8.CommandLine

/-- What a program leaves behind. -/
structure Report where
  /-- The exit code; zero is success. -/
  code : UInt8 := 0
  /-- The text of results. -/
  out : String := ""
  /-- The text of troubles. -/
  err : String := ""
  /-- The time to let pass before the texts are printed, in nanoseconds. -/
  wait : Nat := 0
  deriving DecidableEq, Repr

namespace Report

/-- The program could not make sense of its command line. -/
def usageError (program : String) (e : ArgumentError) : Report :=
  { code := 2, err := program ++ ": " ++ e.message ++ "\n" }

/-- The program was asked what it does. -/
def help (program : String) (lines : List String) : Report :=
  { err := "Usage: " ++ program ++ " [OPTIONS]\n\n" ++ String.join (lines.map (· ++ "\n")) }

/-- The program failed before its work began; `cause` is the cause as a record. -/
def failed (cause : String) : Report := { code := 1, err := "Error: " ++ cause ++ "\n" }

end Report

/-- What a program does with its command line. -/
inductive Plan where
  /-- It ends with this report. -/
  | done (r : Report)
  /-- It reads this file and ends with a report on the bytes. -/
  | onFile (name : String) (work : List UInt8 → Report)

/-- The report that a plan comes to, given the bytes of files by their names. -/
def Plan.carryOut (files : String → Except FileFault (List UInt8)) : Plan → Report
  | .done r => r
  | .onFile name work =>
    match files name with
    | .error f => .failed f.inspect
    | .ok bytes => work bytes

end Chip8.CommandLine
