import Chip8.Proofs.Machine.Runs
import Chip8.Proofs.Machine.Transition

/-!
# The bounds that every machine keeps

Some states of the type `Machine` are never reached.  Memory and screen keep their sizes, the stack
is never deeper than 16, and the program counter and the index do not run away: a return address
was behind an instruction that was fetched, a jump has twelve bits for its target, and the index is
cut to twelve bits.  The bounds on the program counter and on the return addresses need one
another, so they are proved together.

## What is here

* `Machine.Bounded` — the bounds.
* `Bounded.execute`, `Bounded.cycle` — they survive every instruction and every cycle.
* `Console.bounded_perform` — they survive every operation, whatever it answers.
* `Console.bounded_performAll` — so they hold in every state that a console gets into.
-/

set_option autoImplicit false

namespace Chip8

namespace Machine

/-- The bounds of a machine that was switched on and used. -/
structure Bounded (m : Machine) : Prop where
  /-- Memory has its usual size. -/
  memory_size : m.memory.size = 0x1000
  /-- The screen has its usual size. -/
  screen_size : m.screen.pixels.size = Screen.width * Screen.height
  /-- The stack is no deeper than calls make it. -/
  stack_length : m.stack.length ≤ 16
  /-- A return address is behind an instruction that was fetched. -/
  stack_mem : ∀ a ∈ m.stack, 2 ≤ a.toNat ∧ a.toNat ≤ 0x1000
  /-- The program counter is at most one skip behind the end of memory. -/
  pc_le : m.pc.toNat ≤ 0x1002
  /-- The index has twelve bits. -/
  index_le : m.index.toNat ≤ 0xfff
  /-- A key wait fills a register that exists. -/
  keyTarget_lt : m.keyTarget.toNat < 16

theorem bounded_initial (d : Dialect) : (initial d).Bounded where
  memory_size := Memory.size_initial
  screen_size := Array.size_replicate
  stack_length := Nat.zero_le _
  stack_mem := fun _ ha => absurd ha List.not_mem_nil
  pc_le := show (UInt16.ofNat Memory.programStart).toNat ≤ 0x1002 by decide
  index_le := Nat.zero_le _
  keyTarget_lt := Nat.succ_pos _

namespace Bounded

variable {m : Machine} (h : m.Bounded)

include h

/-! ## Instructions -/

theorem setReg (k : Nat) (b : UInt8) : (m.setReg k b).Bounded := { h with }

theorem setFlag (on : Bool) : (m.setFlag on).Bounded := h.setReg _ _

theorem counted : m.counted.Bounded := { h with }

theorem skipIf (c : Bool) (hpc : m.pc.toNat ≤ 0x1000) : (m.skipIf c).Bounded := by
  cases c with
  | false => exact h
  | true =>
    refine { h with pc_le := ?_ }
    show (m.pc + 2).toNat ≤ 0x1002
    rw [UInt16.toNat_add, show (2 : UInt16).toNat = 2 from rfl]
    omega

theorem jump {a : UInt16} (ha : a.toNat ≤ 0x1002) : (m.jump a).Bounded := { h with pc_le := ha }

theorem jumpOffset (a : UInt16) : (m.jumpOffset a).Bounded := by
  refine { h with pc_le := ?_ }
  show ((a + _) % 0x1000 : UInt16).toNat ≤ 0x1002
  rw [UInt16.toNat_mod, show (0x1000 : UInt16).toNat = 0x1000 from rfl]
  omega

theorem call {a : UInt16} (ha : a.toNat ≤ 0x1002) (hlo : 2 ≤ m.pc.toNat)
    (hhi : m.pc.toNat ≤ 0x1000) : (m.call a).state.Bounded := by
  rw [Machine.call]
  split
  · exact h
  · rename_i hd
    refine { h with stack_length := ?_, stack_mem := ?_, pc_le := ha }
    · exact Nat.lt_of_not_le hd
    · intro b hb
      rcases List.mem_cons.1 hb with rfl | hb
      · exact ⟨hlo, hhi⟩
      · exact h.stack_mem b hb

theorem ret : m.ret.state.Bounded := by
  rw [Machine.ret]
  split
  · exact h
  · rename_i a rest hs
    have hlen := h.stack_length
    have hmem := h.stack_mem
    rw [hs] at hlen hmem
    refine { h with stack_length := ?_, stack_mem := ?_, pc_le := ?_ }
    · exact Nat.le_of_succ_le hlen
    · exact fun b hb => hmem b (List.mem_cons_of_mem a hb)
    · exact Nat.le_trans (hmem a List.mem_cons_self).2 (by decide)

theorem setBitwise (x : Nat) (b : UInt8) : (m.setBitwise x b).Bounded := by
  rw [Machine.setBitwise]
  split
  · exact h.setReg x b
  · exact (h.setReg x b).setFlag false

theorem alu (op : AluOp) (x y : Nat) : (m.alu op x y).Bounded := by
  cases op with
  | copy => exact h.setReg _ _
  | or | and | xor => exact h.setBitwise _ _
  | add | sub | shiftRight | subFrom | shiftLeft => exact (h.setReg _ _).setFlag _

theorem withScreen {s : Screen} (hs : s.pixels.size = Screen.width * Screen.height) :
    ({ m with screen := s } : Machine).Bounded := { h with screen_size := hs }

theorem withMemory {mem : Memory} (hm : mem.size = m.memory.size) :
    ({ m with memory := mem } : Machine).Bounded :=
  { h with memory_size := hm.trans h.memory_size }

theorem withRegisters (v : Vector UInt8 16) : ({ m with registers := v } : Machine).Bounded :=
  { h with }

theorem draw (x y n : Nat) : (m.draw x y n).state.Bounded := by
  rw [Machine.draw]
  split
  · exact h
  · exact (h.withScreen (by rw [Screen.size_plot, h.screen_size])).setFlag _

theorem advanceIndex (n : UInt16) : (m.advanceIndex n).Bounded := by
  refine { h with index_le := ?_ }
  show ((m.index + n) % 0x1000 : UInt16).toNat ≤ 0xfff
  rw [UInt16.toNat_mod, show (0x1000 : UInt16).toNat = 0x1000 from rfl]
  omega

theorem pointAtGlyph (x : Nat) : (m.pointAtGlyph x).Bounded := by
  refine { h with index_le := ?_ }
  have hd : (m.reg x).toNat % 0x10 < 0x10 := Nat.mod_lt _ (by decide)
  show (UInt16.ofNat (0x50 + 5 * ((m.reg x).toNat % 0x10))).toNat ≤ 0xfff
  rw [UInt16.toNat_ofNat', Nat.mod_eq_of_lt (by omega)]
  omega

theorem afterTransfer (x : Nat) : (m.afterTransfer x).Bounded := by
  rw [Machine.afterTransfer]
  split
  · exact h
  · exact h.advanceIndex _

theorem storeDigits (x : Nat) : (m.storeDigits x).state.Bounded := by
  exact h.withMemory (Memory.size_overwrite _ _ _)

theorem storeRegisters (x : Nat) : (m.storeRegisters x).state.Bounded := by
  have hstored : ∀ bs,
      ({ m with memory := (m.memory.overwrite m.index.toNat bs).memory } : Machine).Bounded :=
    fun bs => h.withMemory (Memory.size_overwrite _ _ bs)
  rw [Machine.storeRegisters]
  split
  · exact hstored _
  · exact (hstored _).afterTransfer x

theorem loadRegisters (x : Nat) : (m.loadRegisters x).state.Bounded := by
  rw [Machine.loadRegisters]
  split
  · exact h
  · rename_i bytes _
    exact (h.withRegisters (.ofFn fun k => bytes[k.val]?.getD m.registers[k])).afterTransfer x

theorem waitKey {x : UInt64} (hx : x.toNat < 0x10) : (m.waitKey x).state.Bounded :=
  { h with keyTarget_lt := hx }

theorem misc (op : MiscOp) {x : UInt64} (hx : x.toNat < 0x10) : (m.misc op x).state.Bounded := by
  cases op with
  | readDelay => exact h.setReg _ _
  | waitKey => exact h.waitKey hx
  | setDelay | setSound => exact { h with }
  | addIndex => exact h.advanceIndex _
  | glyph => exact h.pointAtGlyph _
  | digits => exact h.storeDigits _
  | store => exact h.storeRegisters _
  | load => exact h.loadRegisters _

/-- The bounds survive every instruction.  The program counter is behind it, as execution finds
it. -/
theorem execute (hlo : 2 ≤ m.pc.toNat) (hhi : m.pc.toNat ≤ 0x1000) {i : Instruction}
    (hi : i.Fits) (random : UInt8) : (m.execute random i).state.Bounded := by
  cases i with
  | system op =>
    cases op with
    | clearScreen => exact h.withScreen (by rw [Screen.size_clear, h.screen_size])
    | ret => exact h.ret
  | jump a => exact h.jump (Nat.le_trans (Nat.le_of_lt hi) (by decide))
  | call a => exact h.call (Nat.le_trans (Nat.le_of_lt hi) (by decide)) hlo hhi
  | skipEqByte | skipNeByte | skipEq | skipNe => exact h.skipIf _ hhi
  | setByte | addByte | random => exact h.setReg _ _
  | alu op x y => exact h.alu op _ _
  | setIndex a => exact { h with index_le := Nat.le_of_lt_succ hi }
  | jumpOffset a => exact h.jumpOffset a
  | draw x y n => exact h.draw _ _ _
  | key op x => cases op <;> exact h.skipIf _ hhi
  | misc op x => exact h.misc op hi

/-! ## Cycles -/

theorem toNat_pc_stepPast (hpc : m.pc.toNat + 1 < m.memory.size) :
    m.stepPast.pc.toNat = m.pc.toNat + 2 := by
  rw [h.memory_size] at hpc
  show (m.pc + 2).toNat = _
  rw [UInt16.toNat_add, show (2 : UInt16).toNat = 2 from rfl]
  omega

theorem stepPast (hpc : m.pc.toNat + 1 < m.memory.size) : m.stepPast.Bounded := by
  refine { h with pc_le := ?_ }
  rw [h.toNat_pc_stepPast hpc]
  rw [h.memory_size] at hpc
  omega

theorem cycle (random : UInt8) : (m.cycle random).state.Bounded := by
  have ht := m.transition random
  generalize m.cycle random = o at ht
  cases ht with
  | paused => exact h
  | unreadable => exact h
  | unknown hp hpc => exact (h.stepPast hpc).counted
  | failed => exact h
  | executed hp hpc hw hf =>
    have hpc' := h.toNat_pc_stepPast hpc
    rw [h.memory_size] at hpc
    exact ((h.stepPast (by rw [h.memory_size]; exact hpc)).execute (by omega) (by omega)
      (Instruction.fits_of_decode? hw) random).counted

/-! ## The surroundings -/

theorem setKey (k : Nat) (down : Bool) : (m.setKey k down).Bounded := { h with }

theorem press (k : Nat) : (m.press k).state.Bounded := by
  rw [Machine.press]
  split
  · dsimp only
    split
    · exact { (h.setKey k true).setReg m.keyTarget.toNat (.ofNat k) with }
    · exact h.setKey k true
  · exact h

theorem release (k : Nat) : (m.release k).state.Bounded := by
  rw [Machine.release]
  split
  · exact h.setKey k false
  · exact h

theorem reset : m.reset.Bounded where
  memory_size := h.memory_size
  screen_size := by
    show m.screen.clear.pixels.size = _
    rw [Screen.size_clear, h.screen_size]
  stack_length := Nat.zero_le _
  stack_mem := fun _ ha => absurd ha List.not_mem_nil
  pc_le := show (UInt16.ofNat Memory.programStart).toNat ≤ 0x1002 by decide
  index_le := Nat.zero_le _
  keyTarget_lt := Nat.succ_pos _

theorem load (program : List UInt8) : (m.load program).state.Bounded := by
  rw [Machine.load_eq]
  split
  · exact h
  · refine h.withMemory ?_
    rw [Memory.size_loadProgram, Memory.size_clearProgram]

end Bounded

end Machine

/-! ## Consoles -/

namespace Console

variable {c : Console}

theorem bounded_cycle (h : c.machine.Bounded) : c.cycle.state.machine.Bounded := h.cycle _

theorem bounded_run (h : c.machine.Bounded) (n : Nat) : (c.run n).state.machine.Bounded :=
  run_induction (motive := fun c => c.machine.Bounded) h (fun _ => bounded_cycle) n

theorem bounded_edit (h : c.machine.Bounded) (e : Memory.Edit) :
    (c.edit e).state.machine.Bounded := h.withMemory (Memory.size_perform _ e)

/-- **The bounds survive every operation**, also one that fails. -/
theorem bounded_perform (c : Console) (op : Operation) (h : c.machine.Bounded) :
    (c.perform op).state.machine.Bounded := by
  cases op with
  | load program => exact h.load program
  | cycle => exact bounded_cycle h
  | run n => exact bounded_run h n
  | tick => exact { h with }
  | press k => exact h.press k
  | release k => exact h.release k
  | setRegister k b => exact h.setReg k b
  | reset => exact h.reset
  | togglePause => exact { h with }
  | setKeyWait on => exact { h with }
  | setDialect d => exact { h with }
  | edit e => exact bounded_edit h e

/-- **The bounds hold in every state that a console gets into.** -/
theorem bounded_performAll (d : Dialect) (e : Entropy) (ops : List Operation) :
    ((powerOn d e).performAll ops).machine.Bounded :=
  performAll_induction (motive := fun c => c.machine.Bounded) (Machine.bounded_initial d)
    bounded_perform ops

theorem Reached.bounded (h : c.Reached) : c.machine.Bounded := by
  obtain ⟨d, e, ops, rfl⟩ := h
  exact bounded_performAll d e ops

end Console

end Chip8
