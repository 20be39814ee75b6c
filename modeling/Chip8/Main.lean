import Chip8.CommandLine.Lister
import Chip8.CommandLine.Runner

/-!
# The command line

One executable serves as two programs, told apart by the name under which it is called: under a
name that ends in `disasm` it lists a program, under any other it runs one.  This file gets at the
arguments, the files and a seed for random bytes, and prints the report; what the report says is
decided elsewhere.
-/

set_option autoImplicit false

namespace Chip8.CommandLine

/-- Mixes the bits of a word, so that words in a row give bytes without a pattern. -/
def mix (z : UInt64) : UInt8 :=
  let z := (z ^^^ (z >>> 30)) * 0xbf58476d1ce4e5b9
  let z := (z ^^^ (z >>> 27)) * 0x94d049bb133111eb
  (z ^^^ (z >>> 31)).toUInt8

/-- Random bytes that depend on a seed. -/
def seeded (seed : UInt64) : Entropy :=
  { byte := fun k => mix (seed + 0x9e3779b97f4a7c15 * (.ofNat k + 1)) }

/-- The system's number of an error; it comes as it is or negated. -/
def errorNumber : IO.Error → Nat
  | .noFileOrDirectory _ code _ => (min code (0 - code)).toNat
  | .permissionDenied _ code _ => (min code (0 - code)).toNat
  | .inappropriateType _ code _ => (min code (0 - code)).toNat
  | .invalidArgument _ code _ => (min code (0 - code)).toNat
  | _ => 0

/-- Why the system would not give out a file. -/
def faultOfError (e : IO.Error) : FileFault :=
  (FileFault.all.find? fun f => f.code == errorNumber e).getD ⟨0, "Other", toString e⟩

/-- The bytes of a file. -/
def fileBytes (name : String) : IO (Except FileFault (List UInt8)) := do
  try
    let bytes ← IO.FS.readBinFile name
    return .ok bytes.toList
  catch e => return .error (faultOfError e)

/-- Carries out a plan with the files of the system. -/
def carryOut : Plan → IO Report
  | .done r => return r
  | .onFile name work => do
    let contents ← fileBytes name
    return Plan.carryOut (fun _ => contents) (.onFile name work)

end Chip8.CommandLine

open Chip8 CommandLine in
/-- Prints the report of the program whose name was called. -/
def main (arguments : List String) : IO UInt32 := do
  let program := (← IO.appPath).fileName.getD "chip8"
  let seed ← IO.rand 0 0xffffffff
  let report ← carryOut <|
    if program.endsWith "disasm" then Lister.plan program arguments
    else Runner.plan program arguments (seeded (.ofNat seed))
  IO.sleep (.ofNat (report.wait / 1000000))
  (← IO.getStdout).putStr report.out
  (← IO.getStderr).putStr report.err
  return report.code.toUInt32
