import Chip8.Instruction.Assembly
import Chip8.CommandLine.Report

/-!
# Listing a program

The lister reads a program from a file and prints a line for each of its words: the address at
which the word will be loaded, its assembly text and its digits.

## What is here

* `words` — the words of a program; an odd byte at the end is left out.
* `plainLine`, `colouredLine` — the line of a word.
* `listing` — the lines of a program from an offset on.
* `Lister.plan` — the program as a whole.
-/

set_option autoImplicit false

namespace Chip8.CommandLine

open Text

/-! ## Lines -/

/-- The words of a program, high bytes first. -/
def words : List UInt8 → List UInt16
  | hi :: lo :: rest => Word.ofBytes hi lo :: words rest
  | _ => []

/-- The line of the word `w` at address `a`, without colours. -/
def plainLine (a : Nat) (w : UInt16) : String :=
  hex 3 a ++ ": " ++ padRight 36 (Disassembly.plain.once w) ++ " " ++ hex 4 w.toNat

/-- The line of the word `w` at address `a`, in colours. -/
def colouredLine (a : Nat) (w : UInt16) : String :=
  hex 3 a ++ ": " ++ Disassembly.coloured.once w ++ " " ++ styled .dim (hex 4 w.toNat)

/-- The lines of words that are loaded one after the other from address `a` on. -/
def linesFrom (line : Nat → UInt16 → String) (a : Nat) : List UInt16 → List String
  | [] => []
  | w :: rest => line a w :: linesFrom line (a + 2) rest

/-- The lines of a program from byte `offset` on. -/
def listing (line : Nat → UInt16 → String) (offset : Nat) (program : List UInt8) : List String :=
  let start := min offset program.length
  linesFrom line (0x200 + start) (words (program.drop start))

/-! ## The program -/

namespace Lister

/-- What a user can ask for. -/
structure Settings where
  /-- The file to list. -/
  file : Option String := none
  /-- Print help and do nothing. -/
  help : Bool := false
  /-- The first byte to list. -/
  offset : Nat := 0
  /-- List without colours. -/
  plain : Bool := false
  deriving DecidableEq, Repr

/-- The command line. -/
def interface : Interface Settings where
  choices :=
    [⟨"help", some 'h', .flag fun s => { s with help := true }⟩,
      ⟨"offset", some 'o', .value fun v s => do pure { s with offset := ← count UInt64.size v }⟩,
      ⟨"plain", some 'p', .flag fun s => { s with plain := true }⟩]
  free word s := if s.file.isNone then some { s with file := some word } else none

/-- The lines of the help text. -/
def helpLines : List String :=
  ["Positional arguments:",
    "  file                 Load a ROM to disassemble",
    "",
    "Optional arguments:",
    "  -h, --help           Show help text",
    "  -o, --offset OFFSET  Start disassembling at offset...",
    "  -p, --plain          Don't color the output"]

/-- Lists a program with these settings. -/
def list (s : Settings) (program : List UInt8) : Report :=
  let line := if s.plain then plainLine else colouredLine
  { out := String.join ((listing line s.offset program).map (· ++ "\n")) }

/-- What the program does with a command line. -/
def plan (program : String) (arguments : List String) : Plan :=
  match interface.read arguments {} with
  | .error e => .done (.usageError program e)
  | .ok s =>
    if s.help then .done (.help program helpLines)
    else match s.file with
      | none => .done (.usageError program .missingFree)
      | some name => .onFile name (list s)

end Lister

end Chip8.CommandLine
