/-!
# The instruction set

An instruction of the machine is one of sixteen kinds, told apart by the first hexadecimal digit
of its word; four of the kinds are families whose member is chosen by another part of the word.

Operands are as wide as the state they name or hold: addresses 16 bits, bytes and sprite heights
8 bits, register numbers 64 bits.  A word has room for less (12 bits of address, one digit of
register number or height), so there are more instructions than words; `Instruction.Fits` picks
out those that a word can hold.

## What is here

* `SystemOp`, `AluOp`, `KeyOp`, `MiscOp` — the four families, each with the number that selects a
  member (`code`) and the way back (`ofCode?`).
* `Instruction` — the instructions.
* `Instruction.Fits` — every operand is in the range that a word can hold.
-/

set_option autoImplicit false

namespace Chip8

/-! ## Families -/

/-- Operations without an operand. -/
inductive SystemOp where
  /-- Turns every pixel off. -/
  | clearScreen
  /-- Goes back to where the last subroutine was called from. -/
  | ret
  deriving DecidableEq, Repr

/-- Operations on two registers, of which the first takes the result. -/
inductive AluOp where
  /-- Takes the second value. -/
  | copy
  /-- Bitwise disjunction. -/
  | or
  /-- Bitwise conjunction. -/
  | and
  /-- Bitwise exclusive disjunction. -/
  | xor
  /-- Sum; the flag register takes the carry. -/
  | add
  /-- First less second; the flag register is set unless there was a borrow. -/
  | sub
  /-- Half of the source; the flag register takes the bit shifted out. -/
  | shiftRight
  /-- Second less first; the flag register is set unless there was a borrow. -/
  | subFrom
  /-- Twice the source; the flag register takes the bit shifted out. -/
  | shiftLeft
  deriving DecidableEq, Repr

/-- Skips that look at the key named by a register. -/
inductive KeyOp where
  /-- Skips if the key is held. -/
  | skipHeld
  /-- Skips if the key is not held. -/
  | skipFree
  deriving DecidableEq, Repr

/-- Operations of one register with the timers, the keypad, the index register and memory. -/
inductive MiscOp where
  /-- Copies the delay timer into the register. -/
  | readDelay
  /-- Waits for a key and puts its number into the register. -/
  | waitKey
  /-- Sets the delay timer from the register. -/
  | setDelay
  /-- Sets the sound timer from the register. -/
  | setSound
  /-- Adds the register to the index. -/
  | addIndex
  /-- Points the index at the font glyph of the register's last digit. -/
  | glyph
  /-- Writes the three decimal digits of the register to memory. -/
  | digits
  /-- Stores the registers up to this one in memory. -/
  | store
  /-- Loads the registers up to this one from memory. -/
  | load
  deriving DecidableEq, Repr

/-- The whole word of an operation without operand. -/
def SystemOp.code : SystemOp → Nat
  | .clearScreen => 0x0e0
  | .ret => 0x0ee

/-- The operation whose word is `n`. -/
def SystemOp.ofCode? : Nat → Option SystemOp
  | 0x0e0 => some .clearScreen
  | 0x0ee => some .ret
  | _ => none

/-- The last digit of the word of an operation on two registers. -/
def AluOp.code : AluOp → Nat
  | .copy => 0x0
  | .or => 0x1
  | .and => 0x2
  | .xor => 0x3
  | .add => 0x4
  | .sub => 0x5
  | .shiftRight => 0x6
  | .subFrom => 0x7
  | .shiftLeft => 0xe

/-- The operation on two registers selected by the digit `n`. -/
def AluOp.ofCode? : Nat → Option AluOp
  | 0x0 => some .copy
  | 0x1 => some .or
  | 0x2 => some .and
  | 0x3 => some .xor
  | 0x4 => some .add
  | 0x5 => some .sub
  | 0x6 => some .shiftRight
  | 0x7 => some .subFrom
  | 0xe => some .shiftLeft
  | _ => none

/-- The last byte of the word of a skip on a key. -/
def KeyOp.code : KeyOp → Nat
  | .skipHeld => 0x9e
  | .skipFree => 0xa1

/-- The skip on a key selected by the byte `n`. -/
def KeyOp.ofCode? : Nat → Option KeyOp
  | 0x9e => some .skipHeld
  | 0xa1 => some .skipFree
  | _ => none

/-- The last byte of the word of a miscellaneous operation. -/
def MiscOp.code : MiscOp → Nat
  | .readDelay => 0x07
  | .waitKey => 0x0a
  | .setDelay => 0x15
  | .setSound => 0x18
  | .addIndex => 0x1e
  | .glyph => 0x29
  | .digits => 0x33
  | .store => 0x55
  | .load => 0x65

/-- The miscellaneous operation selected by the byte `n`. -/
def MiscOp.ofCode? : Nat → Option MiscOp
  | 0x07 => some .readDelay
  | 0x0a => some .waitKey
  | 0x15 => some .setDelay
  | 0x18 => some .setSound
  | 0x1e => some .addIndex
  | 0x29 => some .glyph
  | 0x33 => some .digits
  | 0x55 => some .store
  | 0x65 => some .load
  | _ => none

/-! ## Instructions -/

/-- An instruction.  In the comments `x` and `y` stand for the registers so numbered. -/
inductive Instruction where
  /-- An operation without operand. -/
  | system (op : SystemOp)
  /-- Goes to address `a`. -/
  | jump (a : UInt16)
  /-- Calls the subroutine at address `a`. -/
  | call (a : UInt16)
  /-- Skips the next instruction if `x` holds `b`. -/
  | skipEqByte (x : UInt64) (b : UInt8)
  /-- Skips the next instruction unless `x` holds `b`. -/
  | skipNeByte (x : UInt64) (b : UInt8)
  /-- Skips the next instruction if `x` and `y` are equal. -/
  | skipEq (x y : UInt64)
  /-- Sets `x` to `b`. -/
  | setByte (x : UInt64) (b : UInt8)
  /-- Adds `b` to `x`. -/
  | addByte (x : UInt64) (b : UInt8)
  /-- Combines `x` and `y` into `x`. -/
  | alu (op : AluOp) (x y : UInt64)
  /-- Skips the next instruction if `x` and `y` differ. -/
  | skipNe (x y : UInt64)
  /-- Sets the index to `a`. -/
  | setIndex (a : UInt16)
  /-- Goes to the sum of `a` and a register. -/
  | jumpOffset (a : UInt16)
  /-- Sets `x` to a random byte masked by `b`. -/
  | random (x : UInt64) (b : UInt8)
  /-- Draws the sprite of `n` rows that the index points at, at column `x` and row `y`. -/
  | draw (x y : UInt64) (n : UInt8)
  /-- Skips depending on the key that `x` names. -/
  | key (op : KeyOp) (x : UInt64)
  /-- A miscellaneous operation on `x`. -/
  | misc (op : MiscOp) (x : UInt64)
  deriving DecidableEq, Repr

/-- Every operand is small enough for its place in a word. -/
def Instruction.Fits : Instruction → Prop
  | .system _ => True
  | .jump a | .call a | .setIndex a | .jumpOffset a => a.toNat < 0x1000
  | .skipEqByte x _ | .skipNeByte x _ | .setByte x _ | .addByte x _ | .random x _ =>
    x.toNat < 0x10
  | .skipEq x y | .skipNe x y | .alu _ x y => x.toNat < 0x10 ∧ y.toNat < 0x10
  | .draw x y n => x.toNat < 0x10 ∧ y.toNat < 0x10 ∧ n.toNat < 0x10
  | .key _ x | .misc _ x => x.toNat < 0x10

instance (i : Instruction) : Decidable i.Fits := by
  cases i <;> simp only [Instruction.Fits] <;> infer_instance

/-! ## Codes and back -/

@[simp] theorem AluOp.ofCode?_code (op : AluOp) : ofCode? op.code = some op := by
  cases op <;> rfl

@[simp] theorem KeyOp.ofCode?_code (op : KeyOp) : ofCode? op.code = some op := by
  cases op <;> rfl

@[simp] theorem MiscOp.ofCode?_code (op : MiscOp) : ofCode? op.code = some op := by
  cases op <;> rfl

end Chip8
