import Chip8.Machine.Cycle
import Chip8.Proofs.Instruction.Words
import Chip8.Proofs.Memory.Blocks

/-!
# The five ways of a cycle

A cycle stands still, finds no word, steps over a word that is no instruction, meets an
instruction that fails, or executes one.  Which of them it is depends on the machine alone, not on
the random byte, and this file says how.

## What is here

* `Machine.word` — the word at the program counter.
* `Machine.faultOf` — the fault that an instruction meets at the program counter, if any, and
  `faultOf_cases`, which instructions that can be.  `execute_of_faultOf` and
  `result_execute_of_faultOf` say that this is right, and that an instruction that fails has changed
  nothing.
* `Machine.Transition` — the five ways, and `Machine.transition`, that there is no other.  What is
  said of a cycle in the files that follow is proved by cases on it, or on `cycle_error_cases`, the
  three among the five that fail.
-/

set_option autoImplicit false

namespace Chip8

namespace Machine

variable {m : Machine} {i : Instruction} {f : Fault} {random : UInt8} {len : Nat}

/-! ## Fetching -/

/-- The word at the program counter; a byte that memory does not have counts as 0. -/
def word (m : Machine) : UInt16 :=
  Word.ofBytes (m.memory.byteAt m.pc.toNat) (m.memory.byteAt (m.pc.toNat + 1))

theorem fetch_of_lt (h : m.pc.toNat + 1 < m.memory.size) : m.fetch = .ok m.word := by
  rw [fetch, Memory.read_of_lt (by omega), Memory.read_of_lt h]
  rfl

/-- The fetch names the first of its two addresses that does not exist. -/
theorem fetch_of_le (h : m.memory.size ≤ m.pc.toNat + 1) :
    m.fetch = .error (.outOfBounds (max m.pc.toNat m.memory.size)) := by
  rw [fetch]
  rcases Nat.lt_or_ge m.pc.toNat m.memory.size with hpc | hpc
  · rw [Memory.read_of_lt hpc, Memory.read_of_le h,
      show max m.pc.toNat m.memory.size = m.pc.toNat + 1 by omega]
    rfl
  · rw [Memory.read_of_le hpc, Nat.max_eq_left hpc]
    rfl

/-! ## The instructions that use a block of memory

Each of them fails iff the block does not fit, and otherwise does its work. -/

theorem length_take_registers (m : Machine) {x : Nat} (hx : x < 16) :
    (m.registers.toList.take (x + 1)).length = x + 1 := by
  rw [List.length_take, Vector.length_toList]
  omega

theorem draw_of_lt {x y n : Nat} (h : m.memory.size < m.index.toNat + n) :
    m.draw x y n = .fault (Memory.rangeFault m.index.toNat) m := by
  rw [draw, Memory.range_of_lt h]

theorem draw_of_le {x y n : Nat} (h : m.index.toNat + n ≤ m.memory.size) :
    m.draw x y n =
      let drawn := m.screen.plot (Screen.spriteDots ((m.reg x).toNat % Screen.width)
        ((m.reg y).toNat % Screen.height) (m.memory.block m.index.toNat n))
      .done ({ m with screen := drawn.1 }.setFlag drawn.2) := by
  rw [draw, Memory.range_of_le h]

theorem storeDigits_of_lt {x : Nat} (h : m.memory.size < m.index.toNat + 3) :
    m.storeDigits x = .fault (Memory.rangeFault m.index.toNat) m := by
  rw [storeDigits, Memory.overwrite_of_lt h]
  rfl

theorem storeDigits_of_le {x : Nat} (h : m.index.toNat + 3 ≤ m.memory.size) :
    m.storeDigits x =
      let bytes := Memory.blit m.memory.bytes m.index.toNat (decimalDigits (m.reg x))
      .done { m with memory := ⟨bytes⟩ } := by
  rw [storeDigits, Memory.overwrite_of_le h]
  rfl

theorem storeRegisters_of_lt {x : Nat} (hx : x < 16)
    (h : m.memory.size < m.index.toNat + (x + 1)) :
    m.storeRegisters x = .fault (Memory.rangeFault m.index.toNat) m := by
  rw [storeRegisters, Memory.overwrite_of_lt (by rw [length_take_registers m hx]; exact h)]

theorem storeRegisters_of_le {x : Nat} (hx : x < 16)
    (h : m.index.toNat + (x + 1) ≤ m.memory.size) :
    m.storeRegisters x =
      let bytes := Memory.blit m.memory.bytes m.index.toNat (m.registers.toList.take (x + 1))
      .done ({ m with memory := ⟨bytes⟩ }.afterTransfer x) := by
  rw [storeRegisters, Memory.overwrite_of_le (by rw [length_take_registers m hx]; exact h)]

theorem loadRegisters_of_lt {x : Nat} (h : m.memory.size < m.index.toNat + (x + 1)) :
    m.loadRegisters x = .fault (Memory.rangeFault m.index.toNat) m := by
  rw [loadRegisters, Memory.range_of_lt h]

theorem loadRegisters_of_le {x : Nat} (h : m.index.toNat + (x + 1) ≤ m.memory.size) :
    m.loadRegisters x =
      let bytes := m.memory.block m.index.toNat (x + 1)
      let registers := Vector.ofFn fun k : Fin 16 => bytes[k.val]?.getD m.registers[k]
      .done ({ m with registers }.afterTransfer x) := by
  rw [loadRegisters, Memory.range_of_le h]

/-! ## Failing -/

/-- The fault of a block of `len` bytes at the index, if it does not fit into memory. -/
def blockFault (m : Machine) (len : Nat) : Option Fault :=
  if m.memory.size < m.index.toNat + len then some (Memory.rangeFault m.index.toNat) else none

/-- The fault that an instruction at the program counter meets, if any. -/
def faultOf (m : Machine) : Instruction → Option Fault
  | .system .ret => if m.stack = [] then some (.stackUnderflow m.pc) else none
  | .call _ => if stackDepth ≤ m.stack.length then some (.stackOverflow m.pc) else none
  | .draw _ _ n => m.blockFault n.toNat
  | .misc .digits _ => m.blockFault 3
  | .misc .store x => m.blockFault (x.toNat + 1)
  | .misc .load x => m.blockFault (x.toNat + 1)
  | _ => none

theorem blockFault_eq_some :
    m.blockFault len = some f ↔
      m.memory.size < m.index.toNat + len ∧ f = Memory.rangeFault m.index.toNat := by
  rw [blockFault, Option.ite_none_right_eq_some, Option.some_inj, eq_comm (a := f)]

theorem blockFault_eq_none : m.blockFault len = none ↔ m.index.toNat + len ≤ m.memory.size := by
  rw [blockFault, ite_eq_right_iff, ← Nat.not_lt]
  simp only [reduceCtorEq, imp_false]

/-- **Six instructions can fail**, each for one reason and with one fault. -/
theorem faultOf_cases (h : m.faultOf i = some f) :
    (i = .system .ret ∧ m.stack = [] ∧ f = .stackUnderflow m.pc) ∨
    (∃ a, i = .call a ∧ stackDepth ≤ m.stack.length ∧ f = .stackOverflow m.pc) ∨
    (∃ x y n, i = .draw x y n ∧ m.memory.size < m.index.toNat + n.toNat ∧
      f = Memory.rangeFault m.index.toNat) ∨
    (∃ x, i = .misc .digits x ∧ m.memory.size < m.index.toNat + 3 ∧
      f = Memory.rangeFault m.index.toNat) ∨
    (∃ x, i = .misc .store x ∧ m.memory.size < m.index.toNat + (x.toNat + 1) ∧
      f = Memory.rangeFault m.index.toNat) ∨
    ∃ x, i = .misc .load x ∧ m.memory.size < m.index.toNat + (x.toNat + 1) ∧
      f = Memory.rangeFault m.index.toNat := by
  cases i with
  | system op =>
    cases op with
    | clearScreen => cases h
    | ret =>
      rw [faultOf, Option.ite_none_right_eq_some, Option.some_inj] at h
      exact .inl ⟨rfl, h.1, h.2.symm⟩
  | call a =>
    rw [faultOf, Option.ite_none_right_eq_some, Option.some_inj] at h
    exact .inr (.inl ⟨a, rfl, h.1, h.2.symm⟩)
  | draw x y n => exact .inr (.inr (.inl ⟨x, y, n, rfl, blockFault_eq_some.1 h⟩))
  | misc op x =>
    cases op with
    | digits => exact .inr (.inr (.inr (.inl ⟨x, rfl, blockFault_eq_some.1 h⟩)))
    | store => exact .inr (.inr (.inr (.inr (.inl ⟨x, rfl, blockFault_eq_some.1 h⟩))))
    | load => exact .inr (.inr (.inr (.inr (.inr ⟨x, rfl, blockFault_eq_some.1 h⟩))))
    | readDelay | waitKey | setDelay | setSound | addIndex | glyph => cases h
  | jump | skipEqByte | skipNeByte | skipEq | setByte | addByte | alu | skipNe | setIndex
  | jumpOffset | random | key => cases h

/-- The fault of a call or return is named after the address two before the program counter, which
is where the instruction stands. -/
theorem pc_stepPast_sub (m : Machine) : m.stepPast.pc - 2 = m.pc := UInt16.add_sub_cancel m.pc 2

/-- **An instruction that fails has changed nothing.** -/
theorem execute_of_faultOf (random : UInt8) (hi : i.Fits) (h : m.faultOf i = some f) :
    m.stepPast.execute random i = .fault f m.stepPast := by
  obtain ⟨rfl, hs, rfl⟩ | ⟨a, rfl, hs, rfl⟩ | ⟨x, y, n, rfl, hlt, rfl⟩ | ⟨x, rfl, hlt, rfl⟩ |
    ⟨x, rfl, hlt, rfl⟩ | ⟨x, rfl, hlt, rfl⟩ := faultOf_cases h
  · rw [execute, ret, show m.stepPast.stack = [] from hs, pc_stepPast_sub]
  · rw [execute, call, if_pos (show stackDepth ≤ m.stepPast.stack.length from hs),
      pc_stepPast_sub]
  · exact draw_of_lt (m := m.stepPast) hlt
  · exact storeDigits_of_lt (m := m.stepPast) hlt
  · exact storeRegisters_of_lt (m := m.stepPast) hi hlt
  · exact loadRegisters_of_lt (m := m.stepPast) hlt

theorem result_execute_of_faultOf (random : UInt8) (hi : i.Fits) (h : m.faultOf i = none) :
    (m.stepPast.execute random i).result = .ok () := by
  cases i with
  | system op =>
    cases op with
    | clearScreen => rfl
    | ret =>
      rw [execute, ret]
      cases hs : m.stepPast.stack with
      | nil =>
        rw [faultOf, if_pos (show m.stack = [] from hs)] at h
        cases h
      | cons a rest => rfl
  | call a =>
    rw [faultOf, ite_eq_right_iff] at h
    have hs : ¬ stackDepth ≤ m.stepPast.stack.length := fun hs => Option.some_ne_none _ (h hs)
    rw [execute, call, if_neg hs]
    rfl
  | draw x y n =>
    rw [execute, draw_of_le (m := m.stepPast) (blockFault_eq_none.1 h)]
    rfl
  | key op x => cases op <;> rfl
  | misc op x =>
    cases op with
    | digits =>
      rw [execute, misc, storeDigits_of_le (m := m.stepPast) (blockFault_eq_none.1 h)]
      rfl
    | store =>
      rw [execute, misc, storeRegisters_of_le (m := m.stepPast) hi (blockFault_eq_none.1 h)]
      rfl
    | load =>
      rw [execute, misc, loadRegisters_of_le (m := m.stepPast) (blockFault_eq_none.1 h)]
      rfl
    | readDelay | waitKey | setDelay | setSound | addIndex | glyph => rfl
  | jump | skipEqByte | skipNeByte | skipEq | setByte | addByte | alu | skipNe | setIndex
  | jumpOffset | random => rfl

/-! ## The transition -/

/-- What a cycle is, in five ways. -/
inductive Transition (random : UInt8) (m : Machine) : Executed → Prop where
  /-- The machine is paused and stands still. -/
  | paused (hp : m.flags.isPaused = true) : Transition random m (.done m)
  /-- There is no word at the program counter. -/
  | unreadable (hp : m.flags.isPaused = false) (hpc : m.memory.size ≤ m.pc.toNat + 1) :
      Transition random m (.fault (.outOfBounds (max m.pc.toNat m.memory.size)) m)
  /-- The word is no instruction, and is stepped over. -/
  | unknown (hp : m.flags.isPaused = false) (hpc : m.pc.toNat + 1 < m.memory.size)
      (hw : Instruction.decode? m.word = none) :
      Transition random m ⟨m.stepPast.counted, .error (.unknownOpcode m.word m.pc),
        [.fetched m.cycles m.pc m.word, .skipped m.word m.pc]⟩
  /-- The instruction fails, and the machine is as it was. -/
  | failed {i : Instruction} {f : Fault} (hp : m.flags.isPaused = false)
      (hpc : m.pc.toNat + 1 < m.memory.size) (hw : Instruction.decode? m.word = some i)
      (hf : m.faultOf i = some f) :
      Transition random m ⟨m, .error f, [.fetched m.cycles m.pc m.word]⟩
  /-- The instruction is executed. -/
  | executed {i : Instruction} (hp : m.flags.isPaused = false)
      (hpc : m.pc.toNat + 1 < m.memory.size) (hw : Instruction.decode? m.word = some i)
      (hf : m.faultOf i = none) :
      Transition random m ⟨(m.stepPast.execute random i).state.counted, .ok (),
        .fetched m.cycles m.pc m.word :: (m.stepPast.execute random i).events⟩

theorem cycle_of_fetch (hp : m.flags.isPaused = false) (hpc : m.pc.toNat + 1 < m.memory.size) :
    m.cycle random = (m.runWord random m.word).after [.fetched m.cycles m.pc m.word] := by
  rw [cycle, hp, fetch_of_lt hpc]
  rfl

/-- **Every cycle is one of the five.** -/
theorem transition (random : UInt8) (m : Machine) : Transition random m (m.cycle random) := by
  cases hp : m.flags.isPaused with
  | true =>
    rw [cycle, if_pos hp]
    exact .paused hp
  | false =>
    rcases Nat.lt_or_ge (m.pc.toNat + 1) m.memory.size with hpc | hpc
    · rw [cycle_of_fetch hp hpc, runWord]
      cases hw : Instruction.decode? m.word with
      | none => exact .unknown hp hpc hw
      | some i =>
        have hi := Instruction.fits_of_decode? hw
        cases hf : m.faultOf i with
        | none =>
          simp only [result_execute_of_faultOf random hi hf]
          exact .executed hp hpc hw hf
        | some f =>
          simp only [execute_of_faultOf random hi hf]
          exact .failed hp hpc hw hf
    · rw [cycle, hp, fetch_of_le hpc]
      exact .unreadable hp hpc

/-- **A cycle that fails does so in three ways**: there is no word to read, the word is no
instruction, or the instruction fails.  Only the second leaves anything behind. -/
theorem cycle_error_cases (h : (m.cycle random).result = .error f) :
    (m.memory.size ≤ m.pc.toNat + 1 ∧ f = .outOfBounds (max m.pc.toNat m.memory.size) ∧
      (m.cycle random).state = m) ∨
    (m.pc.toNat + 1 < m.memory.size ∧ Instruction.decode? m.word = none ∧
      f = .unknownOpcode m.word m.pc ∧ (m.cycle random).state = m.stepPast.counted) ∨
    (m.pc.toNat + 1 < m.memory.size ∧ (∃ i, Instruction.decode? m.word = some i ∧
      m.faultOf i = some f) ∧ (m.cycle random).state = m) := by
  have ht := m.transition random
  generalize m.cycle random = o at h ht
  cases ht with
  | paused => cases h
  | unreadable hp hpc =>
    cases h
    exact .inl ⟨hpc, rfl, rfl⟩
  | unknown hp hpc hw =>
    cases h
    exact .inr (.inl ⟨hpc, hw, rfl, rfl⟩)
  | failed hp hpc hw hf =>
    cases h
    exact .inr (.inr ⟨hpc, ⟨_, hw, hf⟩, rfl⟩)
  | executed => cases h

end Machine

end Chip8
