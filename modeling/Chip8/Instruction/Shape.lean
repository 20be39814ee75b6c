import Chip8.Text.Record
import Chip8.Instruction.Basic

/-!
# The parts of an instruction by name

For inspection and for storage an instruction is spelled out as the name of its kind with named
parts.  Both forms say the same, so they share one description.

## What is here

* `Shape` — a kind with one named member, or a kind with labelled parts.
* `Instruction.shape` — the description of an instruction.
* `Instruction.inspect` — the instruction as a one-line record.
-/

set_option autoImplicit false

namespace Chip8

open Text

/-- A part of an instruction: the name of an operation or a number. -/
inductive Part where
  /-- An operation of a family. -/
  | op (name : String)
  /-- An operand. -/
  | number (n : Nat)
  deriving DecidableEq, Repr

/-- An instruction spelled out by names. -/
inductive Shape where
  /-- A kind whose only part is an operation. -/
  | bare (kind : String) (name : String)
  /-- A kind with labelled parts. -/
  | labelled (kind : String) (parts : List (String × Part))
  deriving DecidableEq, Repr

/-! ## Names of operations -/

/-- The name of an operation without operand. -/
def SystemOp.name : SystemOp → String
  | .clearScreen => "Cls"
  | .ret => "Ret"

/-- The name of an operation on two registers. -/
def AluOp.name : AluOp → String
  | .copy => "Mov"
  | .or => "Or"
  | .and => "And"
  | .xor => "Xor"
  | .add => "Add"
  | .sub => "Sub"
  | .shiftRight => "Shr"
  | .subFrom => "Bsub"
  | .shiftLeft => "Shl"

/-- The name of a skip on a key. -/
def KeyOp.name : KeyOp → String
  | .skipHeld => "Sek"
  | .skipFree => "Snek"

/-- The name of a miscellaneous operation. -/
def MiscOp.name : MiscOp → String
  | .readDelay => "GetDt"
  | .waitKey => "WaitK"
  | .setDelay => "SetDt"
  | .setSound => "SetSt"
  | .addIndex => "AddI"
  | .glyph => "Font"
  | .digits => "Bcd"
  | .store => "DmaO"
  | .load => "DmaI"

/-! ## Instructions -/

namespace Instruction

/-- A kind with an address. -/
def addressShape (kind : String) (a : UInt16) : Shape :=
  .labelled kind [("a", .number a.toNat)]

/-- A kind with a register and a byte. -/
def byteShape (kind : String) (x : UInt64) (b : UInt8) : Shape :=
  .labelled kind [("x", .number x.toNat), ("b", .number b.toNat)]

/-- A kind with two registers. -/
def pairShape (kind : String) (x y : UInt64) : Shape :=
  .labelled kind [("x", .number x.toNat), ("y", .number y.toNat)]

/-- The instruction spelled out by names. -/
def shape : Instruction → Shape
  | .system op => .bare "Sys" op.name
  | .jump a => addressShape "Jmp" a
  | .call a => addressShape "Call" a
  | .skipEqByte x b => byteShape "Seb" x b
  | .skipNeByte x b => byteShape "Sneb" x b
  | .skipEq x y => pairShape "Se" x y
  | .setByte x b => byteShape "Movb" x b
  | .addByte x b => byteShape "Addb" x b
  | .alu op x y =>
    .labelled "Alu" [("op", .op op.name), ("x", .number x.toNat), ("y", .number y.toNat)]
  | .skipNe x y => pairShape "Sne" x y
  | .setIndex a => addressShape "MovI" a
  | .jumpOffset a => addressShape "Jmpr" a
  | .random x b => byteShape "Rand" x b
  | .draw x y n =>
    .labelled "Draw"
      [("x", .number x.toNat), ("y", .number y.toNat), ("n", .number n.toNat)]
  | .key op x => .labelled "Key" [("op", .op op.name), ("x", .number x.toNat)]
  | .misc op x => .labelled "Misc" [("op", .op op.name), ("x", .number x.toNat)]

end Instruction

/-- The text of a part: an operation by its name, a number in decimal. -/
def Part.text : Part → String
  | .op name => name
  | .number n => decimal n

/-- The description as a one-line record. -/
def Shape.text : Shape → String
  | .bare kind name => wrapped kind name
  | .labelled kind parts => record kind (parts.map fun p => (p.1, p.2.text))

/-- The instruction as a one-line record. -/
def Instruction.inspect (i : Instruction) : String := i.shape.text

end Chip8
