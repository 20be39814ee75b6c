import Chip8.Instruction.Basic

/-!
# Instruction words

An instruction is stored as a word of four hexadecimal digits.  The first digit is its kind, and
the others hold the operands: an address in the last three, a register number in the second and
the third, a byte in the last two, a height in the last.  Some kinds fix digits that others leave
free, and some words are no instruction.

## What is here

* `Word.kind`, `Word.x`, `Word.y`, `Word.low`, `Word.byte`, `Word.address` — the parts of a word.
* `Instruction.decode?` — the instruction that a word stands for, if any.
* `Instruction.encode` — the word that stands for an instruction whose operands fit.
-/

set_option autoImplicit false

namespace Chip8

/-! ## Parts of a word -/

namespace Word

/-- The first digit. -/
def kind (w : UInt16) : Nat := w.toNat / 0x1000

/-- The second digit, as the number of a register. -/
def x (w : UInt16) : UInt64 := .ofNat (w.toNat / 0x100 % 0x10)

/-- The third digit, as the number of a register. -/
def y (w : UInt16) : UInt64 := .ofNat (w.toNat / 0x10 % 0x10)

/-- The last digit. -/
def low (w : UInt16) : Nat := w.toNat % 0x10

/-- The last two digits. -/
def byte (w : UInt16) : Nat := w.toNat % 0x100

/-- The last three digits, as an address. -/
def address (w : UInt16) : UInt16 := .ofNat (w.toNat % 0x1000)

/-- The word of two bytes, the high one first. -/
def ofBytes (hi lo : UInt8) : UInt16 := .ofNat (0x100 * hi.toNat + lo.toNat)

end Word

namespace Instruction

/-! ## Reading a word -/

/-- The instruction that a word stands for, or nothing for a word that is no instruction. -/
def decode? (w : UInt16) : Option Instruction :=
  match Word.kind w with
  | 0x0 => (SystemOp.ofCode? w.toNat).map .system
  | 0x1 => some (.jump (Word.address w))
  | 0x2 => some (.call (Word.address w))
  | 0x3 => some (.skipEqByte (Word.x w) (.ofNat (Word.byte w)))
  | 0x4 => some (.skipNeByte (Word.x w) (.ofNat (Word.byte w)))
  | 0x5 => if Word.low w = 0 then some (.skipEq (Word.x w) (Word.y w)) else none
  | 0x6 => some (.setByte (Word.x w) (.ofNat (Word.byte w)))
  | 0x7 => some (.addByte (Word.x w) (.ofNat (Word.byte w)))
  | 0x8 => (AluOp.ofCode? (Word.low w)).map fun op => .alu op (Word.x w) (Word.y w)
  | 0x9 => if Word.low w = 0 then some (.skipNe (Word.x w) (Word.y w)) else none
  | 0xa => some (.setIndex (Word.address w))
  | 0xb => some (.jumpOffset (Word.address w))
  | 0xc => some (.random (Word.x w) (.ofNat (Word.byte w)))
  | 0xd => some (.draw (Word.x w) (Word.y w) (.ofNat (Word.low w)))
  | 0xe => (KeyOp.ofCode? (Word.byte w)).map fun op => .key op (Word.x w)
  | 0xf => (MiscOp.ofCode? (Word.byte w)).map fun op => .misc op (Word.x w)
  | _ => none

/-! ## Writing a word -/

/-- The word with a kind, a register number and a byte. -/
def wordOfByte (kind : Nat) (x : UInt64) (b : Nat) : UInt16 :=
  .ofNat (0x1000 * kind + 0x100 * x.toNat + b)

/-- The word with a kind, two register numbers and a last digit. -/
def wordOfDigit (kind : Nat) (x y : UInt64) (n : Nat) : UInt16 :=
  .ofNat (0x1000 * kind + 0x100 * x.toNat + 0x10 * y.toNat + n)

/-- The word with a kind and an address. -/
def wordOfAddress (kind : Nat) (a : UInt16) : UInt16 :=
  .ofNat (0x1000 * kind + a.toNat)

/-- The word of an instruction; for operands that do not fit into a word it is of no use. -/
def encode : Instruction → UInt16
  | .system op => .ofNat op.code
  | .jump a => wordOfAddress 0x1 a
  | .call a => wordOfAddress 0x2 a
  | .skipEqByte x b => wordOfByte 0x3 x b.toNat
  | .skipNeByte x b => wordOfByte 0x4 x b.toNat
  | .skipEq x y => wordOfDigit 0x5 x y 0
  | .setByte x b => wordOfByte 0x6 x b.toNat
  | .addByte x b => wordOfByte 0x7 x b.toNat
  | .alu op x y => wordOfDigit 0x8 x y op.code
  | .skipNe x y => wordOfDigit 0x9 x y 0
  | .setIndex a => wordOfAddress 0xa a
  | .jumpOffset a => wordOfAddress 0xb a
  | .random x b => wordOfByte 0xc x b.toNat
  | .draw x y n => wordOfDigit 0xd x y n.toNat
  | .key op x => wordOfByte 0xe x op.code
  | .misc op x => wordOfByte 0xf x op.code

end Instruction

end Chip8
