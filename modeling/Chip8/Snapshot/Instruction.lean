import Chip8.Json.Value
import Chip8.Instruction.Shape

/-!
# Stored instructions

An instruction is stored as an object with one field: its kind, over its named parts or, for a kind
without operands, over the name of the operation.  Parts that a kind does not have are passed over
when reading; a part that is missing or out of range makes the whole value unreadable.

## What is here

* `Json.name?`, `Json.tagged?` — a choice without parts, and a choice over its parts.
* `Instruction.toJson`, `Instruction.ofJson?` — writing and reading.
-/

set_option autoImplicit false

namespace Chip8

/-! ## Choices -/

/-- A choice without parts: its name, which may also stand as a label over nothing. -/
def Json.name? : Json → Option String
  | .text s => some s
  | .object [(s, .null)] => some s
  | _ => none

/-- A choice over its parts. -/
def Json.tagged? : Json → Option (String × Json)
  | .object [field] => some field
  | _ => none

/-- The operation without operand of a name. -/
def SystemOp.ofName? (s : String) : Option SystemOp :=
  [clearScreen, ret].find? fun op => op.name == s

/-- The operation on two registers of a name. -/
def AluOp.ofName? (s : String) : Option AluOp :=
  [copy, or, and, xor, add, sub, shiftRight, subFrom, shiftLeft].find? fun op => op.name == s

/-- The skip on a key of a name. -/
def KeyOp.ofName? (s : String) : Option KeyOp :=
  [skipHeld, skipFree].find? fun op => op.name == s

/-- The miscellaneous operation of a name. -/
def MiscOp.ofName? (s : String) : Option MiscOp :=
  [readDelay, waitKey, setDelay, setSound, addIndex, glyph, digits, store, load].find?
    fun op => op.name == s

@[simp] theorem SystemOp.ofName?_name (op : SystemOp) : ofName? op.name = some op := by
  cases op <;> decide

@[simp] theorem AluOp.ofName?_name (op : AluOp) : ofName? op.name = some op := by
  cases op <;> decide

@[simp] theorem KeyOp.ofName?_name (op : KeyOp) : ofName? op.name = some op := by
  cases op <;> decide

@[simp] theorem MiscOp.ofName?_name (op : MiscOp) : ofName? op.name = some op := by
  cases op <;> decide

/-! ## Writing -/

/-- A part as a value. -/
def Part.toJson : Part → Json
  | .op name => .text name
  | .number n => .ofNat n

/-- An instruction spelled out by names, as a value. -/
def Shape.toJson : Shape → Json
  | .bare kind name => .object [(kind, .text name)]
  | .labelled kind parts => .object [(kind, .object (parts.map fun p => (p.1, p.2.toJson)))]

/-- The instruction as a stored value. -/
def Instruction.toJson (i : Instruction) : Json := i.shape.toJson

/-! ## Reading -/

namespace Instruction

/-- The register under a label. -/
def register? (label : String) (parts : Json) : Option UInt64 :=
  (parts.field? label).bind Json.word64?

/-- The byte under a label. -/
def operandByte? (label : String) (parts : Json) : Option UInt8 :=
  (parts.field? label).bind Json.byte?

/-- The address among the parts. -/
def address? (parts : Json) : Option UInt16 :=
  (parts.field? "a").bind Json.word16?

/-- A register and a byte. -/
def withByte? (make : UInt64 → UInt8 → Instruction) (parts : Json) : Option Instruction := do
  let x ← register? "x" parts
  let b ← operandByte? "b" parts
  pure (make x b)

/-- Two registers. -/
def withPair? (make : UInt64 → UInt64 → Instruction) (parts : Json) : Option Instruction := do
  let x ← register? "x" parts
  let y ← register? "y" parts
  pure (make x y)

/-- The operation among the parts. -/
def operation? {α : Type} (ofName? : String → Option α) (parts : Json) : Option α := do
  let name ← (parts.field? "op").bind Json.name?
  ofName? name

/-- The instruction of a kind with these parts. -/
def ofParts? (kind : String) (parts : Json) : Option Instruction :=
  match kind with
  | "Sys" => (parts.name?.bind SystemOp.ofName?).map .system
  | "Jmp" => (address? parts).map .jump
  | "Call" => (address? parts).map .call
  | "Seb" => withByte? .skipEqByte parts
  | "Sneb" => withByte? .skipNeByte parts
  | "Se" => withPair? .skipEq parts
  | "Movb" => withByte? .setByte parts
  | "Addb" => withByte? .addByte parts
  | "Alu" => do
    let op ← operation? AluOp.ofName? parts
    withPair? (.alu op) parts
  | "Sne" => withPair? .skipNe parts
  | "MovI" => (address? parts).map .setIndex
  | "Jmpr" => (address? parts).map .jumpOffset
  | "Rand" => withByte? .random parts
  | "Draw" => do
    let n ← operandByte? "n" parts
    withPair? (fun x y => .draw x y n) parts
  | "Key" => do
    let op ← operation? KeyOp.ofName? parts
    let x ← register? "x" parts
    pure (.key op x)
  | "Misc" => do
    let op ← operation? MiscOp.ofName? parts
    let x ← register? "x" parts
    pure (.misc op x)
  | _ => none

/-- The instruction that a stored value stands for, if any. -/
def ofJson? (v : Json) : Option Instruction := do
  let (kind, parts) ← v.tagged?
  ofParts? kind parts

/-- **A stored instruction reads back.** -/
theorem ofJson?_toJson (i : Instruction) : ofJson? i.toJson = some i := by
  cases i <;> simp [ofJson?, toJson, shape, Shape.toJson, Json.tagged?, ofParts?, addressShape,
    byteShape, pairShape, Part.toJson, address?, withByte?, withPair?, operation?, register?,
    operandByte?, Json.field?, Json.name?, Json.fieldOf?]

end Instruction

end Chip8
