import Chip8.Text.Rows
import Chip8.Text.Record
import Chip8.Memory.Basic

/-!
# Memory as text

A hexdump has a line for every sixteen bytes: the address of the first one, a colon, and the bytes
in pairs, each pair behind a space.  The last line may be shorter and may end in half a pair.

## What is here

* `Memory.hexdump` — the lines.
* `Memory.inspect` — the length as a one-line record.
-/

set_option autoImplicit false

namespace Chip8.Memory

open Text

/-- The bytes of one line in pairs. -/
def pairsText (line : List UInt8) : String :=
  String.join ((rows 2 line).map fun pair => " " ++ hexBytes pair)

/-- The line of the bytes from address `a` on. -/
def lineText (a : Nat) (line : List UInt8) : String :=
  hex 3 a ++ ":" ++ pairsText line ++ "\n"

/-- The lines of the rows of sixteen bytes from address `a` on. -/
def linesText (a : Nat) : List (List UInt8) → String
  | [] => ""
  | line :: rest => lineText a line ++ linesText (a + 16) rest

/-- The bytes of memory, sixteen to a line. -/
def hexdump (m : Memory) : String := linesText 0 (rows 16 m.bytes.toList)

/-- The length of memory as a one-line record. -/
def inspect (m : Memory) : String := openRecord "Mem" [("len", decimal m.size)]

end Chip8.Memory
