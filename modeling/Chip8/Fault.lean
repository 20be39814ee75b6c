import Chip8.Text.Numeral
import Chip8.Text.Quoted
import Chip8.Text.Record

/-!
# Faults

Everything that can go wrong in the machine and around it has a cause, and the cause fixes both
the message for people and the record for inspection.

## What is here

* `Fault` — the causes.
* `Fault.isRecoverable` — whether a run may go on after the fault.
* `Fault.message`, `Fault.inspect` — the two texts.
-/

set_option autoImplicit false

namespace Chip8

open Text

/-- A cause of failure. -/
inductive Fault where
  /-- Memory has no byte at this address. -/
  | outOfBounds (addr : Nat)
  /-- A program is longer than the room for it. -/
  | programTooLarge (size limit : Nat)
  /-- A call at this address found the stack full. -/
  | stackOverflow (addr : UInt16)
  /-- A return at this address found the stack empty. -/
  | stackUnderflow (addr : UInt16)
  /-- The word at this address is no instruction. -/
  | unknownOpcode (word addr : UInt16)
  /-- No platform has this name. -/
  | unknownPlatform (name : String)
  deriving DecidableEq, Repr

namespace Fault

/-- Only an unknown word can be stepped over; after any other fault the machine is stuck. -/
def isRecoverable : Fault → Bool
  | .unknownOpcode _ _ => true
  | _ => false

/-- The fault in a sentence. -/
def message : Fault → String
  | .outOfBounds addr => "address " ++ hex 4 addr ++ " is outside of memory"
  | .programTooLarge size limit =>
    "program is " ++ decimal size ++ " bytes, but only " ++ decimal limit ++
      " bytes are available"
  | .stackOverflow addr => "stack overflow: call at " ++ hex 3 addr.toNat
  | .stackUnderflow addr => "stack underflow: return at " ++ hex 3 addr.toNat
  | .unknownOpcode word addr =>
    "opcode " ++ hex 4 word.toNat ++ " at " ++ hex 3 addr.toNat ++ " not recognized"
  | .unknownPlatform name => "no suitable conversion of \"" ++ name ++ "\" into Mode"

/-- The fault as a one-line record. -/
def inspect : Fault → String
  | .outOfBounds addr => record "OutOfBounds" [("addr", decimal addr)]
  | .programTooLarge size limit =>
    record "ProgramTooLarge" [("len", decimal size), ("max", decimal limit)]
  | .stackOverflow addr => record "StackOverflow" [("addr", decimal addr.toNat)]
  | .stackUnderflow addr => record "StackUnderflow" [("addr", decimal addr.toNat)]
  | .unknownOpcode word addr =>
    record "UnknownOpcode" [("word", decimal word.toNat), ("addr", decimal addr.toNat)]
  | .unknownPlatform name => record "InvalidMode" [("mode", quoted name)]

end Fault

end Chip8
