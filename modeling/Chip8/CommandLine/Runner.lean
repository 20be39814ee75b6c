import Chip8.Machine.Console
import Chip8.Platform
import Chip8.Screen.HalfBlocks
import Chip8.CommandLine.Report

/-!
# Running a program

The runner loads a program from a file, runs it for a number of frames without anybody at the keys,
and prints the screen and the registers.  In a frame the machine makes a fixed number of cycles and
then the timers count down; a fault that cannot be stepped over ends the run in the middle of its
frame.

## What is here

* `Console.frames` — a number of frames, and `Played`, what they leave behind.
* `Settings` — what a user can ask for.
* `Runner.summary` — what is printed about a machine that has run.
* `Runner.plan` — the program as a whole.
-/

set_option autoImplicit false

namespace Chip8

/-- What a number of frames leaves behind. -/
structure Played where
  /-- The console afterwards. -/
  console : Console
  /-- What ended the run early, if anything. -/
  ended : Option Fault
  /-- The number of frames begun. -/
  begun : Nat

/-- Runs for `n` more frames of `perFrame` cycles each, when `begun` frames have been begun. -/
def Console.framesFrom (perFrame begun : Nat) : Nat → Console → Played
  | 0, c => ⟨c, none, begun⟩
  | n + 1, c =>
    let o := c.run perFrame
    match o.result with
    | .error f => ⟨o.state, some f, begun + 1⟩
    | .ok () =>
      framesFrom perFrame (begun + 1) n { o.state with machine := o.state.machine.tick }

/-- Runs for `n` frames of `perFrame` cycles each. -/
def Console.frames (perFrame n : Nat) (c : Console) : Played := framesFrom perFrame 0 n c

namespace CommandLine.Runner

open Text

/-! ## Settings -/

/-- What a user can ask for. -/
structure Settings where
  /-- The file to run. -/
  file : Option String := none
  /-- Print help and do nothing. -/
  help : Bool := false
  /-- The number of cycles in a frame. -/
  perFrame : Nat := 10
  /-- The number of frames. -/
  frames : Nat := 600
  /-- The number of frames in a second. -/
  rate : Nat := 60
  /-- Do not wait between frames. -/
  fast : Bool := false
  /-- The platform the program was written for. -/
  platform : Platform := .chip8
  /-- Take the platform's other choice on the flag register. -/
  flipsFlag : Bool := false
  /-- Take the platform's other choice on block transfers. -/
  flipsIndex : Bool := false
  /-- Take the platform's other choice on shifts. -/
  flipsShift : Bool := false
  /-- Take the platform's other choice on indexed jumps. -/
  flipsJump : Bool := false
  deriving DecidableEq, Repr

/-- The dialect of the platform, with the choices that the user wants the other way. -/
def Settings.dialect (s : Settings) : Dialect :=
  let d := s.platform.dialect
  { keepsFlag := d.keepsFlag ^^ s.flipsFlag
    shiftsInPlace := d.shiftsInPlace ^^ s.flipsShift
    keepsIndex := d.keepsIndex ^^ s.flipsIndex
    jumpsByNamed := d.jumpsByNamed ^^ s.flipsJump }

/-- The time between two frames, in nanoseconds. -/
def Settings.frameTime (s : Settings) : Nat :=
  if s.fast then 0 else 1000000000 / max s.rate 1 + 1

/-- A platform by a name that a person gives. -/
def platformValue (name : String) : Except String Platform :=
  (Platform.ofName name).mapError Fault.message

/-- The command line. -/
def interface : Interface Settings where
  choices :=
    [⟨"help", some 'h', .flag fun s => { s with help := true }⟩,
      ⟨"ipf", some 'i', .value fun v s => do pure { s with perFrame := ← count UInt64.size v }⟩,
      ⟨"frames", some 'f', .value fun v s => do pure { s with frames := ← count UInt64.size v }⟩,
      ⟨"frame-rate", some 'F', .value fun v s => do pure { s with rate := ← count UInt64.size v }⟩,
      ⟨"fast", none, .flag fun s => { s with fast := true }⟩,
      ⟨"mode", some 'm', .value fun v s => do pure { s with platform := ← platformValue v }⟩,
      ⟨"vfreset", some 'z', .flag fun s => { s with flipsFlag := true }⟩,
      ⟨"memory", some 'c', .flag fun s => { s with flipsIndex := true }⟩,
      ⟨"shift", some 'v', .flag fun s => { s with flipsShift := true }⟩,
      ⟨"jumping", some 'b', .flag fun s => { s with flipsJump := true }⟩]
  free word s := if s.file.isNone then some { s with file := some word } else none

/-- The lines of the help text. -/
def helpLines : List String :=
  ["Positional arguments:",
    "  file                 Load a ROM to run on Chirp8.",
    "",
    "Optional arguments:",
    "  -h, --help           Print this help message.",
    "  -i, --ipf IPF        Set the instructions-per-frame rate. (default: 10)",
    "  -f, --frames FRAMES  Number of frames to run before printing the screen. (default: 600)",
    "  -F, --frame-rate FR  Set the target framerate. (default: 60)",
    "  --fast               Don't wait between frames.",
    "  -m, --mode MODE      Run in (Chip8, SChip) mode.",
    "  -z, --vfreset        Disable setting vF to 0 after a bitwise operation.",
    "  -c, --memory         Use CHIP-48 style DMA instructions, which don't touch I.",
    "  -v, --shift          Use CHIP-48 style bit-shifts, which don't touch vY.",
    "  -b, --jumping        Use SUPER-CHIP style indexed jump, " ++
      "which is indexed relative to v[adr]."]

/-! ## The program -/

/-- What is printed about a machine that has run: the screen, the registers, and whether a key is
waited for; and, as trouble, what ended the run early. -/
def summary (m : Machine) (ended : Option Fault) : Report :=
  let out := styled .green m.screen.text ++ "\n" ++ styled .dim m.listing ++ "\n" ++
    (if m.flags.keyWait then styled .yellow "waiting for a key" ++ "\n" else "")
  match ended with
  | none => { out }
  | some f => { code := 1, out, err := styled .red (styled .bold f.message) ++ "\n" }

/-- Runs a program with these settings. -/
def play (s : Settings) (entropy : Entropy) (program : List UInt8) : Report :=
  let o := (Machine.initial s.dialect).load program
  match o.result with
  | .error f => .failed f.inspect
  | .ok () =>
    let p := Console.frames s.perFrame s.frames ⟨o.state, entropy⟩
    { summary p.console.machine p.ended with wait := s.frameTime * p.begun }

/-- What the program does with a command line. -/
def plan (program : String) (arguments : List String) (entropy : Entropy) : Plan :=
  match interface.read arguments {} with
  | .error e => .done (.usageError program e)
  | .ok s =>
    if s.help then .done (.help program helpLines)
    else match s.file with
      | none => .done (.usageError program .missingFree)
      | some name => .onFile name (play s entropy)

end CommandLine.Runner

end Chip8
