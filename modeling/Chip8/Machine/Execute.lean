import Chip8.Machine.Basic
import Chip8.Machine.Event

/-!
# What each instruction does

When an instruction is executed the program counter already points at the next one.  An
instruction that fails does so before it has changed anything.

Register F takes part in arithmetic twice, as an operand and as the flag: operands are read first,
then the result is written, and the flag last.

## What is here

* One function for each kind of instruction or family: `skipIf`, `call`, `ret`, `alu`, `draw`, and
  so on.  The six that can fail give an outcome, the others a machine.
* `Machine.execute` — the dispatch.
-/

set_option autoImplicit false

namespace Chip8.Machine

/-- What executing an instruction leaves behind. -/
abbrev Executed := Outcome Machine (Except Fault Unit)

/-! ## Flow of control -/

/-- Steps over the next instruction if the condition holds. -/
def skipIf (c : Bool) (m : Machine) : Machine :=
  if c then { m with pc := m.pc + 2 } else m

/-- Goes to an address. -/
def jump (a : UInt16) (m : Machine) : Machine := { m with pc := a }

/-- Goes to the sum of an address and the first register, or the register that the address itself
names. -/
def jumpOffset (a : UInt16) (m : Machine) : Machine :=
  let k := if m.flags.dialect.jumpsByNamed then a.toNat / 0x100 else 0
  { m with pc := (a + (m.reg k).toUInt16) % 0x1000 }

/-- Remembers where to go on and goes to an address. -/
def call (a : UInt16) (m : Machine) : Executed :=
  if stackDepth ≤ m.stack.length then .fault (.stackOverflow (m.pc - 2)) m
  else .done { m with stack := m.pc :: m.stack, pc := a }

/-- Goes on where the last call was made. -/
def ret (m : Machine) : Executed :=
  match m.stack with
  | [] => .fault (.stackUnderflow (m.pc - 2)) m
  | a :: rest => .done { m with stack := rest, pc := a }

/-! ## Arithmetic -/

/-- Writes the result of a bitwise operation, which in some dialects clears the flag register. -/
def setBitwise (x : Nat) (b : UInt8) (m : Machine) : Machine :=
  if m.flags.dialect.keepsFlag then m.setReg x b else (m.setReg x b).setFlag false

/-- Combines two registers into the first. -/
def alu (op : AluOp) (x y : Nat) (m : Machine) : Machine :=
  let a := m.reg x
  let b := m.reg y
  let source := if m.flags.dialect.shiftsInPlace then a else b
  match op with
  | .copy => m.setReg x b
  | .or => m.setBitwise x (a ||| b)
  | .and => m.setBitwise x (a &&& b)
  | .xor => m.setBitwise x (a ^^^ b)
  | .add => (m.setReg x (a + b)).setFlag (decide (0x100 ≤ a.toNat + b.toNat))
  | .sub => (m.setReg x (a - b)).setFlag (decide (b ≤ a))
  | .subFrom => (m.setReg x (b - a)).setFlag (decide (a ≤ b))
  | .shiftRight => (m.setReg x (source >>> 1)).setFlag (source.toNat.testBit 0)
  | .shiftLeft => (m.setReg x (source <<< 1)).setFlag (source.toNat.testBit 7)

/-! ## Screen -/

/-- Turns every pixel off. -/
def clearScreen (m : Machine) : Machine := { m with screen := m.screen.clear }

/-- Draws the sprite of `n` rows that the index points at; its corner is given by two registers and
is moved onto the screen first.  The flag register tells whether a pixel was turned off. -/
def draw (x y n : Nat) (m : Machine) : Executed :=
  match m.memory.range m.index.toNat n with
  | .error f => .fault f m
  | .ok rows =>
    let dots := Screen.spriteDots ((m.reg x).toNat % Screen.width)
      ((m.reg y).toNat % Screen.height) rows
    let (screen, hit) := m.screen.plot dots
    .done ({ m with screen }.setFlag hit)

/-! ## Index and memory -/

/-- Moves the index on, within the 4096 addresses that a program can name. -/
def advanceIndex (n : UInt16) (m : Machine) : Machine :=
  { m with index := (m.index + n) % 0x1000 }

/-- Points the index at the glyph of the last digit of a register. -/
def pointAtGlyph (x : Nat) (m : Machine) : Machine :=
  { m with index := .ofNat (Memory.fontStart + 5 * ((m.reg x).toNat % 0x10)) }

/-- The decimal digits of a byte, hundreds first. -/
def decimalDigits (b : UInt8) : List UInt8 := [b / 100, b / 10 % 10, b % 10]

/-- Writes the decimal digits of a register to memory. -/
def storeDigits (x : Nat) (m : Machine) : Executed :=
  let w := m.memory.overwrite m.index.toNat (decimalDigits (m.reg x))
  ⟨{ m with memory := w.memory }, w.result, []⟩

/-- After a block transfer of the registers up to `x` the index points behind the block, unless
the dialect keeps it. -/
def afterTransfer (x : Nat) (m : Machine) : Machine :=
  if m.flags.dialect.keepsIndex then m else m.advanceIndex (.ofNat (x + 1))

/-- Stores the registers up to `x` in memory. -/
def storeRegisters (x : Nat) (m : Machine) : Executed :=
  let w := m.memory.overwrite m.index.toNat (m.registers.toList.take (x + 1))
  let m := { m with memory := w.memory }
  match w.result with
  | .error f => .fault f m
  | .ok () => .done (m.afterTransfer x)

/-- Loads the registers up to `x` from memory. -/
def loadRegisters (x : Nat) (m : Machine) : Executed :=
  match m.memory.range m.index.toNat (x + 1) with
  | .error f => .fault f m
  | .ok bytes =>
    let registers := Vector.ofFn fun k : Fin 16 => bytes[k.val]?.getD m.registers[k]
    .done ({ m with registers }.afterTransfer x)

/-! ## Keys and timers -/

/-- Stands still until a key is pressed, whose number then goes into register `x`. -/
def waitKey (x : UInt64) (m : Machine) : Executed :=
  ⟨{ m with keyTarget := x, flags := { m.flags with keyWait := true } }, .ok (), [.waiting x]⟩

/-- The key that a register names by its last digit is held. -/
def namedKeyHeld (x : Nat) (m : Machine) : Bool := m.held ((m.reg x).toNat % 0x10)

/-- The miscellaneous operations. -/
def misc (op : MiscOp) (x : UInt64) (m : Machine) : Executed :=
  let k := x.toNat
  match op with
  | .readDelay => .done (m.setReg k m.delay)
  | .waitKey => m.waitKey x
  | .setDelay => .done { m with delay := m.reg k }
  | .setSound => .done { m with sound := m.reg k }
  | .addIndex => .done (m.advanceIndex (m.reg k).toUInt16)
  | .glyph => .done (m.pointAtGlyph k)
  | .digits => m.storeDigits k
  | .store => m.storeRegisters k
  | .load => m.loadRegisters k

/-! ## Dispatch -/

/-- Executes an instruction; `random` is the random byte at hand, for the one instruction that
takes it. -/
def execute (random : UInt8) (i : Instruction) (m : Machine) : Executed :=
  match i with
  | .system .clearScreen => .done m.clearScreen
  | .system .ret => m.ret
  | .jump a => .done (m.jump a)
  | .call a => m.call a
  | .skipEqByte x b => .done (m.skipIf (decide (m.reg x.toNat = b)))
  | .skipNeByte x b => .done (m.skipIf (decide (m.reg x.toNat ≠ b)))
  | .skipEq x y => .done (m.skipIf (decide (m.reg x.toNat = m.reg y.toNat)))
  | .setByte x b => .done (m.setReg x.toNat b)
  | .addByte x b => .done (m.setReg x.toNat (m.reg x.toNat + b))
  | .alu op x y => .done (m.alu op x.toNat y.toNat)
  | .skipNe x y => .done (m.skipIf (decide (m.reg x.toNat ≠ m.reg y.toNat)))
  | .setIndex a => .done { m with index := a }
  | .jumpOffset a => .done (m.jumpOffset a)
  | .random x b => .done (m.setReg x.toNat (random &&& b))
  | .draw x y n => m.draw x.toNat y.toNat n.toNat
  | .key .skipHeld x => .done (m.skipIf (m.namedKeyHeld x.toNat))
  | .key .skipFree x => .done (m.skipIf (!m.namedKeyHeld x.toNat))
  | .misc op x => m.misc op x

end Chip8.Machine
