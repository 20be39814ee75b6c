import Chip8.Dialect

/-!
# Control flags

A machine carries a few flags beside its registers: two reasons to stand still, and the dialect in
which it reads its programs.

## What is here

* `Flags` — the flags, in the order in which they are compared.
* `Flags.isPaused` — whether the machine stands still.
* `Flags.inspect` — the flags as a one-line record.
-/

set_option autoImplicit false

namespace Chip8

open Text

/-- The control flags of a machine. -/
structure Flags where
  /-- The user has paused the machine. -/
  pause : Bool := false
  /-- The program waits for a key. -/
  keyWait : Bool := false
  /-- The dialect in which programs are read. -/
  dialect : Dialect := {}
  deriving DecidableEq, Repr, Ord

namespace Flags

/-- The machine stands still for either reason. -/
def isPaused (f : Flags) : Bool := f.pause || f.keyWait

/-- The user pauses the machine, or lets it go on. -/
def togglePause (f : Flags) : Flags := { f with pause := !f.pause }

/-- The flags as a one-line record. -/
def inspect (f : Flags) : String :=
  record "Flags"
    [("pause", truth f.pause), ("keypause", truth f.keyWait), ("quirks", f.dialect.inspect)]

end Flags

end Chip8
