import Chip8.Text.Numeral
import Chip8.Text.Colour
import Chip8.Instruction.Decode

/-!
# Assembly text

An instruction is written as a mnemonic in a column of seven characters followed by its operands,
sources before destinations: bytes and heights behind `#`, addresses that stand for a value behind
`$`, registers behind `v`.  A word that is no instruction is listed as `inval` with its digits.

## What is here

* `Instruction.text` — the assembly text of an instruction.
* `Disassembly` — how instructions and other words are listed, and `Disassembly.once`, the
  text of one word in them; `Disassembly.plain` has no looks and `Disassembly.coloured` has two.
-/

set_option autoImplicit false

namespace Chip8

open Text

/-! ## Operands -/

/-- A register operand. -/
def registerText (x : UInt64) : String := "v" ++ hexUpper x.toNat

/-- A byte operand. -/
def byteText (b : UInt8) : String := "#" ++ hex 2 b.toNat

/-- An address operand. -/
def addressText (a : UInt16) : String := hex 3 a.toNat

/-- A line of assembly: the mnemonic in its column, then the operands. -/
def assembly (mnemonic : String) (operands : List String) : String :=
  padRight 7 mnemonic ++ ", ".intercalate operands

/-! ## Instructions -/

/-- The mnemonic of an operation on two registers. -/
def AluOp.mnemonic : AluOp → String
  | .copy => "mov"
  | .or => "or"
  | .and => "and"
  | .xor => "xor"
  | .add => "add"
  | .sub => "sub"
  | .shiftRight => "shr"
  | .subFrom => "bsub"
  | .shiftLeft => "shl"

/-- The assembly text of a miscellaneous operation. -/
def MiscOp.text (op : MiscOp) (x : UInt64) : String :=
  match op with
  | .readDelay => assembly "mov" ["DT", registerText x]
  | .waitKey => assembly "waitk" [registerText x]
  | .setDelay => assembly "mov" [registerText x, "DT"]
  | .setSound => assembly "mov" [registerText x, "ST"]
  | .addIndex => assembly "add" [registerText x, "I"]
  | .glyph => assembly "font" [registerText x, "I"]
  | .digits => assembly "bcd" [registerText x, "&I"]
  | .store => assembly "dmao" [registerText x]
  | .load => assembly "dmai" [registerText x]

/-- The assembly text of an instruction. -/
def Instruction.text : Instruction → String
  | .system .clearScreen => assembly "cls" []
  | .system .ret => assembly "ret" []
  | .jump a => assembly "jmp" [addressText a]
  | .call a => assembly "call" [addressText a]
  | .skipEqByte x b => assembly "se" [byteText b, registerText x]
  | .skipNeByte x b => assembly "sne" [byteText b, registerText x]
  | .skipEq x y => assembly "se" [registerText y, registerText x]
  | .setByte x b => assembly "mov" [byteText b, registerText x]
  | .addByte x b => assembly "add" [byteText b, registerText x]
  | .alu op x y => assembly op.mnemonic [registerText y, registerText x]
  | .skipNe x y => assembly "sne" [registerText y, registerText x]
  | .setIndex a => assembly "mov" ["$" ++ addressText a, "I"]
  | .jumpOffset a => assembly "jmp" ["$" ++ addressText a ++ "+v0"]
  | .random x b => assembly "rand" [byteText b, registerText x]
  | .draw x y n => assembly "draw" ["#" ++ hex 1 n.toNat, registerText x, registerText y]
  | .key .skipHeld x => assembly "sek" [registerText x]
  | .key .skipFree x => assembly "snek" [registerText x]
  | .misc op x => op.text x

/-! ## Words -/

/-- The text of a word that is no instruction. -/
def invalidText (w : UInt16) : String :=
  assembly "inval" [hex 4 w.toNat]

/-- How words are listed: the look of an instruction and that of any other word. -/
structure Disassembly where
  /-- What is done to the text of an instruction. -/
  valid : String → String
  /-- What is done to the text of another word. -/
  invalid : String → String

namespace Disassembly

/-- Words are listed without any look. -/
def plain : Disassembly := ⟨id, id⟩

/-- Instructions are listed in green, other words in bold red. -/
def coloured : Disassembly := ⟨styled ⟨"32", "0"⟩, styled ⟨"31;1", "0"⟩⟩

/-- The text of one word. -/
def once (d : Disassembly) (w : UInt16) : String :=
  match Instruction.decode? w with
  | some i => d.valid i.text
  | none => d.invalid (invalidText w)

end Disassembly

end Chip8
