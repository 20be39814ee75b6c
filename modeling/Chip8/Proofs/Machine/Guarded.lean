import Chip8.Proofs.Machine.Bounded

/-!
# No index goes astray

The functions of a machine are total: a register beyond F reads as 0, a pixel beyond the end of the
screen stays as it is, and the sum of two words wraps around.  None of that is ever made use of.
Each function that gets at a register, a key, a pixel or a fixed region of memory by its number, or
that adds to the program counter or the index, is written down here a second time, with a question
mark: it gives nothing at all where the number is out of range or the sum wraps.  On a machine
within its bounds both give the same.

## What is here

* `Word.add?`, `Machine.reg?`, `Machine.held?`, `Screen.toggle?`, … — guarded access.
* `Machine.execute?`, `Machine.cycle?`, `Console.perform?` — the guarded functions, up to everything
  that can be done to a console.
* `Bounded.execute?_eq`, `Bounded.cycle?_eq`, `Console.perform?_eq` — within the bounds no guard
  ever fails.
* `Console.bounded_and_guarded_performAll` — in every state that a console gets into the bounds
  hold, and the next operation, whichever it is, passes all guards.
-/

set_option autoImplicit false

namespace Chip8

/-! ## Sums, pixels and regions -/

/-- The sum of two words, unless it wraps around. -/
def Word.add? (a b : UInt16) : Option UInt16 :=
  if a.toNat + b.toNat < 0x10000 then some (a + b) else none

theorem Word.add?_of_lt {a b : UInt16} (h : a.toNat + b.toNat < 0x10000) :
    add? a b = some (a + b) := if_pos h

namespace Screen

/-- `toggle`, which needs the pixel to be there. -/
def toggle? (s : Screen) (d : Dot) : Option (Screen × Bool) := do
  let k := index d.x d.y
  let old ← s.pixels[k]?
  some (⟨s.pixels.setIfInBounds k (old ^^ d.on)⟩, old && d.on)

/-- `plot`, which needs the pixels to be there. -/
def plot? (s : Screen) : List Dot → Option (Screen × Bool)
  | [] => some (s, false)
  | d :: ds => do
    let (s, hit) ← s.toggle? d
    let (s, hits) ← s.plot? ds
    some (s, hit || hits)

variable {s : Screen}

theorem toggle?_eq (h : s.pixels.size = width * height) (d : Dot) :
    s.toggle? d = some (s.toggle d) := by
  have hk : index d.x d.y < s.pixels.size := h ▸ index_lt d.x d.y
  simp only [toggle?, toggle, Array.getElem?_eq_getElem hk, Array.getD_eq_getD_getElem?,
    Option.bind_eq_bind, Option.bind_some, Option.getD_some]

theorem plot?_eq (h : s.pixels.size = width * height) (ds : List Dot) :
    s.plot? ds = some (s.plot ds) := by
  induction ds generalizing s with
  | nil => rfl
  | cons d ds ih =>
    have hs : (s.toggle d).1.pixels.size = width * height := by rw [size_toggle, h]
    rw [plot?, toggle?_eq h, Option.bind_eq_bind, Option.bind_some]
    dsimp only
    rw [ih hs]
    rfl

end Screen

namespace Memory

/-- `loadFont`, which needs the region of the glyphs to be there. -/
def loadFont? (m : Memory) : Option Memory :=
  if fontStart + font.length ≤ m.size then some m.loadFont else none

/-- `clearProgram`, which needs programs to start within memory. -/
def clearProgram? (m : Memory) : Option Memory :=
  if programStart ≤ m.size then some m.clearProgram else none

/-- `loadProgram`, which needs the region of the program to be there, if there is room for the
program in a machine's memory. -/
def loadProgram? (m : Memory) (program : List UInt8) : Option Written :=
  if program.length ≤ programLimit → programStart + program.length ≤ m.size then
    some (m.loadProgram program)
  else none

/-- `perform`, which needs the fixed regions to be there. -/
def perform? (m : Memory) : Edit → Option Written
  | .write a b => some (m.write a b)
  | .overwrite a bs => some (m.overwrite a bs)
  | .loadFont => m.loadFont?.map fun memory => { memory }
  | .loadProgram program => m.loadProgram? program
  | .clearProgram => m.clearProgram?.map fun memory => { memory }

variable {m : Memory} (h : m.size = capacity)

include h

theorem loadFont?_eq : m.loadFont? = some m.loadFont := if_pos (by rw [h]; decide)

theorem clearProgram?_eq : m.clearProgram? = some m.clearProgram := if_pos (by rw [h]; decide)

theorem loadProgram?_eq (program : List UInt8) :
    m.loadProgram? program = some (m.loadProgram program) := by
  refine if_pos fun hp => ?_
  rw [programLimit, programStart, capacity] at hp
  rw [h, programStart, capacity]
  omega

theorem perform?_eq (e : Edit) : m.perform? e = some (m.perform e) := by
  cases e with
  | write a b => rfl
  | overwrite a bs => rfl
  | loadFont => rw [perform?, loadFont?_eq h, Option.map_some, perform]
  | loadProgram program => exact loadProgram?_eq h program
  | clearProgram => rw [perform?, clearProgram?_eq h, Option.map_some, perform]

end Memory

namespace Machine

/-! ## Registers, keys and the program counter -/

/-- `reg`, which needs the register to be there. -/
def reg? (m : Machine) (k : Nat) : Option UInt8 := m.registers[k]?

/-- `setReg`, which needs the register to be there. -/
def setReg? (m : Machine) (k : Nat) (b : UInt8) : Option Machine :=
  if k < 16 then some (m.setReg k b) else none

/-- `setFlag`, by way of `setReg?`. -/
def setFlag? (m : Machine) (on : Bool) : Option Machine := m.setReg? 0xf (if on then 1 else 0)

/-- `held`, which needs the key to be there. -/
def held? (m : Machine) (k : Nat) : Option Bool := m.keys[k]?

/-- `stepPast`, which needs the program counter not to wrap around. -/
def stepPast? (m : Machine) : Option Machine := do
  let a ← Word.add? m.pc 2
  some { m with pc := a }

/-- `skipIf`, which needs the program counter not to wrap around. -/
def skipIf? (c : Bool) (m : Machine) : Option Machine := if c then m.stepPast? else some m

variable {m : Machine} {k x y : Nat}

theorem reg?_of_lt (h : k < 16) : m.reg? k = some (m.reg k) := by
  rw [reg?, reg, Vector.getElem?_eq_getElem h, Option.getD_some]

theorem setReg?_of_lt (h : k < 16) (b : UInt8) : m.setReg? k b = some (m.setReg k b) := if_pos h

theorem setFlag?_eq (on : Bool) : m.setFlag? on = some (m.setFlag on) :=
  setReg?_of_lt (by decide) _

theorem held?_of_lt (h : k < 16) : m.held? k = some (m.held k) := by
  rw [held?, held, Vector.getElem?_eq_getElem h, Option.getD_some]

theorem stepPast?_of_le (h : m.pc.toNat ≤ 0x1000) : m.stepPast? = some m.stepPast := by
  have hs : m.pc.toNat + (2 : UInt16).toNat < 0x10000 := by
    rw [show (2 : UInt16).toNat = 2 from rfl]
    omega
  rw [stepPast?, Word.add?_of_lt hs]
  rfl

/-- The guard does fail where the program counter would wrap around. -/
example : ({ pc := 0xffff } : Machine).stepPast? = none := rfl

theorem skipIf?_of_le (h : m.pc.toNat ≤ 0x1000) (c : Bool) :
    m.skipIf? c = some (m.skipIf c) := by
  cases c with
  | false => rfl
  | true => exact stepPast?_of_le h

/-! ## Arithmetic and jumps -/

/-- `jumpOffset`, which needs the register to be there and the sum not to wrap around. -/
def jumpOffset? (a : UInt16) (m : Machine) : Option Machine := do
  let b ← m.reg? (if m.flags.dialect.jumpsByNamed then a.toNat / 0x100 else 0)
  let target ← Word.add? a b.toUInt16
  some { m with pc := target % 0x1000 }

/-- Writes a result and then the flag, both by way of `setReg?`. -/
def setResult? (x : Nat) (b : UInt8) (on : Bool) (m : Machine) : Option Machine := do
  let m ← m.setReg? x b
  m.setFlag? on

/-- `setBitwise`, which needs the register to be there. -/
def setBitwise? (x : Nat) (b : UInt8) (m : Machine) : Option Machine :=
  if m.flags.dialect.keepsFlag then m.setReg? x b else m.setResult? x b false

/-- `alu`, which needs both registers to be there. -/
def alu? (op : AluOp) (x y : Nat) (m : Machine) : Option Machine := do
  let a ← m.reg? x
  let b ← m.reg? y
  let source := if m.flags.dialect.shiftsInPlace then a else b
  match op with
  | .copy => m.setReg? x b
  | .or => m.setBitwise? x (a ||| b)
  | .and => m.setBitwise? x (a &&& b)
  | .xor => m.setBitwise? x (a ^^^ b)
  | .add => m.setResult? x (a + b) (decide (0x100 ≤ a.toNat + b.toNat))
  | .sub => m.setResult? x (a - b) (decide (b ≤ a))
  | .subFrom => m.setResult? x (b - a) (decide (a ≤ b))
  | .shiftRight => m.setResult? x (source >>> 1) (source.toNat.testBit 0)
  | .shiftLeft => m.setResult? x (source <<< 1) (source.toNat.testBit 7)

theorem jumpOffset?_of_lt {a : UInt16} (ha : a.toNat < 0x1000) :
    m.jumpOffset? a = some (m.jumpOffset a) := by
  have hk : (if m.flags.dialect.jumpsByNamed then a.toNat / 0x100 else 0) < 16 := by
    split <;> omega
  rw [jumpOffset?, reg?_of_lt hk, Option.bind_eq_bind, Option.bind_some, Word.add?_of_lt]
  · rfl
  · have hb := UInt8.toNat_lt
      (m.reg (if m.flags.dialect.jumpsByNamed then a.toNat / 0x100 else 0))
    rw [UInt8.toNat_toUInt16]
    omega

theorem setResult?_of_lt (hx : x < 16) (b : UInt8) (on : Bool) :
    m.setResult? x b on = some ((m.setReg x b).setFlag on) := by
  rw [setResult?, setReg?_of_lt hx, Option.bind_eq_bind, Option.bind_some, setFlag?_eq]

theorem setBitwise?_of_lt (hx : x < 16) (b : UInt8) :
    m.setBitwise? x b = some (m.setBitwise x b) := by
  rw [setBitwise?, setBitwise, setReg?_of_lt hx, setResult?_of_lt hx]
  split <;> rfl

theorem alu?_of_lt (op : AluOp) (hx : x < 16) (hy : y < 16) :
    m.alu? op x y = some (m.alu op x y) := by
  rw [alu?, reg?_of_lt hx, reg?_of_lt hy]
  cases op with
  | copy => exact setReg?_of_lt hx _
  | or | and | xor => exact setBitwise?_of_lt hx _
  | add | sub | shiftRight | subFrom | shiftLeft => exact setResult?_of_lt hx _ _

/-! ## Screen, index and blocks -/

/-- `draw`, which needs the registers and the pixels to be there. -/
def draw? (x y n : Nat) (m : Machine) : Option Executed := do
  let a ← m.reg? x
  let b ← m.reg? y
  match m.memory.range m.index.toNat n with
  | .error f => some (.fault f m)
  | .ok rows =>
    let (screen, hit) ← m.screen.plot? (Screen.spriteDots (a.toNat % Screen.width)
      (b.toNat % Screen.height) rows)
    let m ← { m with screen }.setFlag? hit
    some (.done m)

/-- `advanceIndex`, which needs the sum not to wrap around. -/
def advanceIndex? (n : UInt16) (m : Machine) : Option Machine := do
  let a ← Word.add? m.index n
  some { m with index := a % 0x1000 }

/-- `pointAtGlyph`, which needs the register to be there and the sum not to wrap around. -/
def pointAtGlyph? (x : Nat) (m : Machine) : Option Machine := do
  let b ← m.reg? x
  let a ← Word.add? (.ofNat Memory.fontStart) (.ofNat (5 * (b.toNat % 0x10)))
  some { m with index := a }

/-- `storeDigits`, which needs the register to be there. -/
def storeDigits? (x : Nat) (m : Machine) : Option Executed := do
  let b ← m.reg? x
  let w := m.memory.overwrite m.index.toNat (decimalDigits b)
  some ⟨{ m with memory := w.memory }, w.result, []⟩

/-- `afterTransfer`, which needs the sum not to wrap around. -/
def afterTransfer? (x : Nat) (m : Machine) : Option Machine :=
  if m.flags.dialect.keepsIndex then some m else m.advanceIndex? (.ofNat (x + 1))

/-- `storeRegisters`, which needs the registers to be there. -/
def storeRegisters? (x : Nat) (m : Machine) : Option Executed :=
  if x < 16 then
    let w := m.memory.overwrite m.index.toNat (m.registers.toList.take (x + 1))
    let m := { m with memory := w.memory }
    match w.result with
    | .error f => some (.fault f m)
    | .ok () => (m.afterTransfer? x).map .done
  else none

/-- `loadRegisters`, which needs the registers to be there. -/
def loadRegisters? (x : Nat) (m : Machine) : Option Executed :=
  if x < 16 then
    match m.memory.range m.index.toNat (x + 1) with
    | .error f => some (.fault f m)
    | .ok bytes =>
      let registers := Vector.ofFn fun k : Fin 16 => bytes[k.val]?.getD (m.registers.get k)
      ({ m with registers }.afterTransfer? x).map .done
  else none

theorem advanceIndex?_of_lt {n : UInt16} (h : m.index.toNat + n.toNat < 0x10000) :
    m.advanceIndex? n = some (m.advanceIndex n) := by
  rw [advanceIndex?, Word.add?_of_lt h]
  rfl

theorem pointAtGlyph?_of_lt (hx : x < 16) : m.pointAtGlyph? x = some (m.pointAtGlyph x) := by
  have hd : (m.reg x).toNat % 0x10 < 0x10 := Nat.mod_lt _ (by decide)
  have hf : (UInt16.ofNat Memory.fontStart).toNat = 0x50 := by decide
  have hs : (UInt16.ofNat (5 * ((m.reg x).toNat % 0x10))).toNat = 5 * ((m.reg x).toNat % 0x10) := by
    rw [UInt16.toNat_ofNat', Nat.mod_eq_of_lt (by omega)]
  rw [pointAtGlyph?, reg?_of_lt hx, Option.bind_eq_bind, Option.bind_some,
    Word.add?_of_lt (by rw [hf, hs]; omega), ← UInt16.ofNat_add]
  rfl

theorem storeDigits?_of_lt (hx : x < 16) : m.storeDigits? x = some (m.storeDigits x) := by
  rw [storeDigits?, storeDigits, reg?_of_lt hx, Option.bind_eq_bind, Option.bind_some]

namespace Bounded

variable (h : m.Bounded)

include h

theorem draw?_eq (hx : x < 16) (hy : y < 16) (n : Nat) :
    m.draw? x y n = some (m.draw x y n) := by
  rw [draw?, Machine.draw, reg?_of_lt hx, reg?_of_lt hy]
  simp only [Option.bind_eq_bind, Option.bind_some]
  cases m.memory.range m.index.toNat n with
  | error f => rfl
  | ok rows =>
    dsimp only
    rw [Screen.plot?_eq h.screen_size]
    rfl

theorem advanceIndex?_eq {n : UInt16} (hn : n.toNat ≤ 0xff) :
    m.advanceIndex? n = some (m.advanceIndex n) := by
  have hi := h.index_le
  exact advanceIndex?_of_lt (by omega)

theorem afterTransfer?_eq (hx : x < 16) : m.afterTransfer? x = some (m.afterTransfer x) := by
  have hn : (UInt16.ofNat (x + 1)).toNat ≤ 0xff := by
    rw [UInt16.toNat_ofNat', Nat.mod_eq_of_lt (by omega)]
    omega
  rw [afterTransfer?, Machine.afterTransfer, h.advanceIndex?_eq hn]
  split <;> rfl

theorem storeRegisters?_eq (hx : x < 16) :
    m.storeRegisters? x = some (m.storeRegisters x) := by
  rw [storeRegisters?, Machine.storeRegisters, if_pos hx]
  dsimp only
  rw [(h.withMemory (Memory.size_overwrite _ _ _)).afterTransfer?_eq hx]
  cases (m.memory.overwrite m.index.toNat (m.registers.toList.take (x + 1))).result <;> rfl

theorem loadRegisters?_eq (hx : x < 16) : m.loadRegisters? x = some (m.loadRegisters x) := by
  rw [loadRegisters?, Machine.loadRegisters, if_pos hx]
  cases m.memory.range m.index.toNat (x + 1) with
  | error f => rfl
  | ok bytes =>
    dsimp only
    rw [(h.withRegisters _).afterTransfer?_eq hx]
    rfl

end Bounded

/-! ## Instructions and cycles -/

/-- `namedKeyHeld`, which needs the register and the key to be there. -/
def namedKeyHeld? (x : Nat) (m : Machine) : Option Bool := do
  let b ← m.reg? x
  m.held? (b.toNat % 0x10)

/-- `misc`, which needs the register to be there. -/
def misc? (op : MiscOp) (x : UInt64) (m : Machine) : Option Executed :=
  let k := x.toNat
  match op with
  | .readDelay => (m.setReg? k m.delay).map .done
  | .waitKey => some (m.waitKey x)
  | .setDelay => (m.reg? k).map fun b => .done { m with delay := b }
  | .setSound => (m.reg? k).map fun b => .done { m with sound := b }
  | .addIndex => do
    let b ← m.reg? k
    (m.advanceIndex? b.toUInt16).map .done
  | .glyph => (m.pointAtGlyph? k).map .done
  | .digits => m.storeDigits? k
  | .store => m.storeRegisters? k
  | .load => m.loadRegisters? k

/-- `skipIf?` on a condition on a register. -/
def skipIfReg? (x : Nat) (p : UInt8 → Bool) (m : Machine) : Option Executed := do
  let a ← m.reg? x
  (m.skipIf? (p a)).map .done

/-- `execute`, which needs everything that the instruction names to be there, and no sum to wrap
around. -/
def execute? (random : UInt8) (i : Instruction) (m : Machine) : Option Executed :=
  match i with
  | .system .clearScreen => some (.done m.clearScreen)
  | .system .ret => some m.ret
  | .jump a => some (.done (m.jump a))
  | .call a => some (m.call a)
  | .skipEqByte x b => m.skipIfReg? x.toNat fun a => decide (a = b)
  | .skipNeByte x b => m.skipIfReg? x.toNat fun a => decide (a ≠ b)
  | .skipEq x y => do
    let b ← m.reg? y.toNat
    m.skipIfReg? x.toNat fun a => decide (a = b)
  | .setByte x b => (m.setReg? x.toNat b).map .done
  | .addByte x b => do
    let a ← m.reg? x.toNat
    (m.setReg? x.toNat (a + b)).map .done
  | .alu op x y => (m.alu? op x.toNat y.toNat).map .done
  | .skipNe x y => do
    let b ← m.reg? y.toNat
    m.skipIfReg? x.toNat fun a => decide (a ≠ b)
  | .setIndex a => some (.done { m with index := a })
  | .jumpOffset a => (m.jumpOffset? a).map .done
  | .random x b => (m.setReg? x.toNat (random &&& b)).map .done
  | .draw x y n => m.draw? x.toNat y.toNat n.toNat
  | .key .skipHeld x => do
    let down ← m.namedKeyHeld? x.toNat
    (m.skipIf? down).map .done
  | .key .skipFree x => do
    let down ← m.namedKeyHeld? x.toNat
    (m.skipIf? (!down)).map .done
  | .misc op x => m.misc? op x

/-- `runWord`, which needs the program counter not to wrap around. -/
def runWord? (random : UInt8) (word : UInt16) (m : Machine) : Option Executed := do
  let past ← m.stepPast?
  match Instruction.decode? word with
  | none => some ⟨past.counted, .error (.unknownOpcode word m.pc), [.skipped word m.pc]⟩
  | some i =>
    let o ← past.execute? random i
    match o.result with
    | .ok () => some { o with state := o.state.counted }
    | .error _ => some { o with state := { o.state with pc := m.pc } }

/-- `cycle`, by way of `runWord?`. -/
def cycle? (random : UInt8) (m : Machine) : Option Executed :=
  if m.flags.isPaused then some (.done m)
  else match m.fetch with
    | .error f => some (.fault f m)
    | .ok word => (m.runWord? random word).map fun o => o.after [.fetched m.cycles m.pc word]

theorem namedKeyHeld?_of_lt (hx : x < 16) : m.namedKeyHeld? x = some (m.namedKeyHeld x) := by
  rw [namedKeyHeld?, reg?_of_lt hx]
  exact held?_of_lt (Nat.mod_lt _ (by decide))

theorem skipIfReg?_of_lt (hx : x < 16) (hpc : m.pc.toNat ≤ 0x1000) (p : UInt8 → Bool) :
    m.skipIfReg? x p = some (.done (m.skipIf (p (m.reg x)))) := by
  rw [skipIfReg?, reg?_of_lt hx, Option.bind_eq_bind, Option.bind_some, skipIf?_of_le hpc,
    Option.map_some]

namespace Bounded

variable (h : m.Bounded)

include h

theorem misc?_eq (op : MiscOp) {x : UInt64} (hx : x.toNat < 0x10) :
    m.misc? op x = some (m.misc op x) := by
  cases op with
  | readDelay => rw [misc?, setReg?_of_lt hx]; rfl
  | waitKey => rfl
  | setDelay => rw [misc?, reg?_of_lt hx]; rfl
  | setSound => rw [misc?, reg?_of_lt hx]; rfl
  | addIndex =>
    have hb : (m.reg x.toNat).toUInt16.toNat ≤ 0xff := by
      rw [UInt8.toNat_toUInt16]
      exact Nat.le_of_lt_succ (UInt8.toNat_lt _)
    rw [misc?, reg?_of_lt hx, Option.bind_eq_bind, Option.bind_some, h.advanceIndex?_eq hb]
    rfl
  | glyph => rw [misc?, pointAtGlyph?_of_lt hx]; rfl
  | digits => exact storeDigits?_of_lt hx
  | store => exact h.storeRegisters?_eq hx
  | load => exact h.loadRegisters?_eq hx

/-- **No instruction fails a guard.** -/
theorem execute?_eq (hpc : m.pc.toNat ≤ 0x1000) {i : Instruction} (hi : i.Fits)
    (random : UInt8) : m.execute? random i = some (m.execute random i) := by
  cases i with
  | system op => cases op <;> rfl
  | jump a => rfl
  | call a => rfl
  | skipEqByte x b => exact skipIfReg?_of_lt hi hpc _
  | skipNeByte x b => exact skipIfReg?_of_lt hi hpc _
  | skipEq x y =>
    rw [execute?, reg?_of_lt hi.2]
    exact skipIfReg?_of_lt hi.1 hpc _
  | setByte x b => rw [execute?, setReg?_of_lt hi]; rfl
  | addByte x b => rw [execute?, reg?_of_lt hi, Option.bind_eq_bind, Option.bind_some,
      setReg?_of_lt hi]; rfl
  | alu op x y => rw [execute?, alu?_of_lt op hi.1 hi.2]; rfl
  | skipNe x y =>
    rw [execute?, reg?_of_lt hi.2]
    exact skipIfReg?_of_lt hi.1 hpc _
  | setIndex a => rfl
  | jumpOffset a => rw [execute?, jumpOffset?_of_lt hi]; rfl
  | random x b => rw [execute?, setReg?_of_lt hi]; rfl
  | draw x y n => exact h.draw?_eq hi.1 hi.2.1 _
  | key op x =>
    cases op with
    | skipHeld | skipFree =>
      rw [execute?, namedKeyHeld?_of_lt hi, Option.bind_eq_bind, Option.bind_some,
        skipIf?_of_le hpc]
      rfl
  | misc op x => exact h.misc?_eq op hi

theorem runWord?_eq (hpc : m.pc.toNat + 1 < m.memory.size) (random : UInt8) (word : UInt16) :
    m.runWord? random word = some (m.runWord random word) := by
  have hp := h.toNat_pc_stepPast hpc
  have hs := hpc
  rw [h.memory_size] at hs
  rw [runWord?, runWord, stepPast?_of_le (by omega), Option.bind_eq_bind, Option.bind_some]
  cases hd : Instruction.decode? word with
  | none => rfl
  | some i =>
    dsimp only
    rw [(h.stepPast hpc).execute?_eq (by omega) (Instruction.fits_of_decode? hd) random,
      Option.bind_eq_bind, Option.bind_some]
    cases (m.stepPast.execute random i).result <;> rfl

/-- **No cycle fails a guard.** -/
theorem cycle?_eq (random : UInt8) : m.cycle? random = some (m.cycle random) := by
  rw [cycle?, Machine.cycle]
  split
  · rfl
  · by_cases hpc : m.pc.toNat + 1 < m.memory.size
    · rw [fetch_of_lt hpc]
      dsimp only
      rw [h.runWord?_eq hpc]
      rfl
    · rw [fetch_of_le (Nat.le_of_not_lt hpc)]

end Bounded

/-! ## The surroundings -/

/-- `load`, which needs the region of programs to be there. -/
def load? (program : List UInt8) (m : Machine) : Option (Outcome Machine (Except Fault Unit)) := do
  if Memory.programLimit < program.length then
    some (.fault (.programTooLarge program.length Memory.programLimit) m)
  else
    let cleared := { m with memory := ← m.memory.clearProgram? }
    let w ← cleared.memory.loadProgram? program
    let loaded := { cleared with memory := w.memory }
    match w.result with
    | .error f => some (.fault f loaded)
    | .ok () => some ⟨loaded, .ok (), [.loaded program.length]⟩

/-- `press`, which needs the register that a key wait fills to be there. -/
def press? (k : Nat) (m : Machine) : Option (Outcome Machine Bool) :=
  if k < 16 ∧ m.held k = false then
    let m := m.setKey k true
    if m.flags.keyWait then do
      let filled ← m.setReg? m.keyTarget.toNat (.ofNat k)
      some ⟨{ filled with flags := { m.flags with keyWait := false } }, true,
        [.resumed k m.keyTarget]⟩
    else some ⟨m, true, []⟩
  else some ⟨m, false, []⟩

namespace Bounded

variable (h : m.Bounded)

include h

theorem load?_eq (program : List UInt8) : m.load? program = some (m.load program) := by
  have hc : m.memory.clearProgram.size = Memory.capacity := by
    rw [Memory.size_clearProgram, h.memory_size, Memory.capacity]
  rw [load?, Machine.load]
  split
  · rfl
  · simp only [Memory.clearProgram?_eq h.memory_size, Memory.loadProgram?_eq hc,
      Option.bind_eq_bind, Option.bind_some]
    cases (m.memory.clearProgram.loadProgram program).result <;> rfl

theorem press?_eq (k : Nat) : m.press? k = some (m.press k) := by
  rw [press?, Machine.press]
  split
  · dsimp only
    split
    · rw [setReg?_of_lt (show (m.setKey k true).keyTarget.toNat < 16 from h.keyTarget_lt)]
      rfl
    · rfl
  · rfl

end Bounded

end Machine

namespace Console

/-- `cycle`, by way of the guarded cycle of the machine. -/
def cycle? (c : Console) : Option (Outcome Console (Except Fault Unit)) := do
  let o ← c.machine.cycle? c.entropy.next
  some ⟨⟨o.state, if c.machine.takesRandom then c.entropy.rest else c.entropy⟩, o.result, o.events⟩

/-- `run`, of guarded cycles. -/
def run? : Nat → Console → Option (Outcome Console (Except Fault Unit))
  | 0, c => some (.done c)
  | n + 1, c => do
    let o ← c.cycle?
    if goesOn o.result then
      let rest ← run? n o.state
      some (rest.after o.events)
    else some o

/-- `edit`, of guarded memory. -/
def edit? (c : Console) (e : Memory.Edit) : Option (Outcome Console Answer) := do
  let w ← c.machine.memory.perform? e
  some (c.settle .ofResult ⟨{ c.machine with memory := w.memory }, w.result, []⟩)

/-- `perform`, by way of the guarded functions. -/
def perform? (c : Console) : Operation → Option (Outcome Console Answer)
  | .load program => (c.machine.load? program).map (c.settle .ofResult)
  | .cycle => c.cycle?.map answered
  | .run n => (c.run? n).map answered
  | .press k => (c.machine.press? k).map (c.settle .flag)
  | .edit e => c.edit? e
  -- the others name nothing, or look first whether it is there
  | op => some (c.perform op)

variable {c : Console} (h : c.machine.Bounded)

include h

theorem cycle?_eq : c.cycle? = some c.cycle := by
  rw [cycle?, h.cycle?_eq]
  rfl

theorem run?_eq (n : Nat) : c.run? n = some (c.run n) := by
  induction n generalizing c with
  | zero => rfl
  | succ n ih =>
    rw [run?, run_succ, cycle?_eq h, Option.bind_eq_bind, Option.bind_some, ih (bounded_cycle h)]
    split <;> rfl

theorem edit?_eq (e : Memory.Edit) : c.edit? e = some (c.edit e) := by
  rw [edit?, edit, Memory.perform?_eq h.memory_size, Option.bind_eq_bind, Option.bind_some]

/-- **No operation fails a guard** on a machine within its bounds. -/
theorem perform?_eq (op : Operation) : c.perform? op = some (c.perform op) := by
  cases op with
  | load program => rw [perform?, h.load?_eq]; rfl
  | cycle => rw [perform?, cycle?_eq h]; rfl
  | run n => rw [perform?, run?_eq h]; rfl
  | press k => rw [perform?, h.press?_eq]; rfl
  | edit e => exact edit?_eq h e
  | tick | release | setRegister | reset | togglePause | setKeyWait | setDialect => rfl

omit h in
/-- **What a console can get into is within its bounds, and nothing is ever out of range there.**
From power-on, whatever is done, with whatever random bytes, also when it fails: the bounds hold,
and whichever operation comes next, each of its accesses passes its guard and no sum wraps. -/
theorem bounded_and_guarded_performAll (d : Dialect) (e : Entropy) (ops : List Operation) :
    let c := (powerOn d e).performAll ops
    c.machine.Bounded ∧ ∀ op, c.perform? op = some (c.perform op) := by
  have hb := bounded_performAll d e ops
  exact ⟨hb, fun op => perform?_eq hb op⟩

end Console

end Chip8
