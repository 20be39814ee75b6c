import Chip8.Proofs.Machine.Transition

/-!
# Which cycles fail, and what is left of them

Whether a cycle fails can be read off the machine beforehand.  A cycle that fails leaves the
machine as it was, with one exception: a word that is no instruction is stepped over and counted.

## What is here

* `Machine.NextFault` — the ways in which the next cycle of a machine with the usual 4096 bytes can
  fail, one line for each, in terms of the digits of the word at the program counter.
* `Machine.cycle_error_iff` — a cycle fails in these ways and no other.
* `Machine.cycle_atomic` — what a cycle that failed has left behind.
-/

set_option autoImplicit false

namespace Chip8

namespace Machine

variable {m : Machine} {random : UInt8} {f : Fault}

/-! ## Which cycles fail -/

/-- The ways in which the next cycle of a machine with 4096 bytes of memory can fail, unless it is
paused. -/
inductive NextFault (m : Machine) : Fault → Prop where
  /-- One of the two bytes at the program counter is missing. -/
  | fetch (hpc : 4095 ≤ m.pc.toNat) : NextFault m (.outOfBounds (max m.pc.toNat 4096))
  /-- The word is no instruction. -/
  | unknown (hpc : m.pc.toNat < 4095) (hw : ¬ Word.IsInstruction m.word) :
      NextFault m (.unknownOpcode m.word m.pc)
  /-- `00EE` with nowhere to return to. -/
  | ret (hpc : m.pc.toNat < 4095) (hw : m.word = 0x00ee) (hs : m.stack.length = 0) :
      NextFault m (.stackUnderflow m.pc)
  /-- `2nnn` with the stack full. -/
  | call (hpc : m.pc.toNat < 4095) (hw : Word.kind m.word = 0x2) (hs : 16 ≤ m.stack.length) :
      NextFault m (.stackOverflow m.pc)
  /-- `Dxyn` with a sprite that runs past the end of memory. -/
  | draw (hpc : m.pc.toNat < 4095) (hw : Word.kind m.word = 0xd)
      (hi : 4096 < m.index.toNat + Word.low m.word) :
      NextFault m (.outOfBounds (max m.index.toNat 4096))
  /-- `Fx33` with no room for three digits. -/
  | digits (hpc : m.pc.toNat < 4095) (hw : Word.kind m.word = 0xf) (hb : Word.byte m.word = 0x33)
      (hi : 4096 < m.index.toNat + 3) : NextFault m (.outOfBounds (max m.index.toNat 4096))
  /-- `Fx55` or `Fx65` with registers that run past the end of memory. -/
  | registers (hpc : m.pc.toNat < 4095) (hw : Word.kind m.word = 0xf)
      (hb : Word.byte m.word = 0x55 ∨ Word.byte m.word = 0x65)
      (hi : 4096 < m.index.toNat + (Word.x m.word).toNat + 1) :
      NextFault m (.outOfBounds (max m.index.toNat 4096))

/-- An instruction that was read and fails is among the ways. -/
theorem nextFault_of_faultOf {i : Instruction} (hm : m.memory.size = 4096)
    (hpc : m.pc.toNat < 4095) (hw : Instruction.decode? m.word = some i)
    (hf : m.faultOf i = some f) : NextFault m f := by
  obtain ⟨rfl, hs, rfl⟩ | ⟨a, rfl, hs, rfl⟩ | ⟨x, y, n, rfl, hlt, rfl⟩ | ⟨x, rfl, hlt, rfl⟩ |
    ⟨x, rfl, hlt, rfl⟩ | ⟨x, rfl, hlt, rfl⟩ := faultOf_cases hf
  · exact .ret hpc (Instruction.encode_of_decode? hw).symm (by rw [hs, List.length_nil])
  · exact .call hpc (Instruction.kind_of_decode?_call hw) hs
  · obtain ⟨hk, hn⟩ := Instruction.parts_of_decode?_draw hw
    exact .draw hpc hk (by omega)
  · obtain ⟨hk, hb, -⟩ := Instruction.parts_of_decode?_misc hw
    exact .digits hpc hk hb (by omega)
  · obtain ⟨hk, hb, hx⟩ := Instruction.parts_of_decode?_misc hw
    exact .registers hpc hk (.inl hb) (by rw [hx]; omega)
  · obtain ⟨hk, hb, hx⟩ := Instruction.parts_of_decode?_misc hw
    exact .registers hpc hk (.inr hb) (by rw [hx]; omega)

theorem nextFault_of_cycle (hm : m.memory.size = 4096)
    (h : (m.cycle random).result = .error f) : NextFault m f := by
  obtain ⟨hpc, rfl, -⟩ | ⟨hpc, hw, rfl, -⟩ | ⟨hpc, ⟨i, hw, hf⟩, -⟩ := cycle_error_cases h
  · rw [hm]
    exact .fetch (by omega)
  · exact .unknown (by omega) ((Instruction.decode?_eq_none_iff _).1 hw)
  · exact nextFault_of_faultOf hm (by omega) hw hf

/-- The instruction that fails in one of the ways, when there is a word to read. -/
theorem result_cycle_of_faultOf {i : Instruction} (hm : m.memory.size = 4096)
    (hp : m.flags.isPaused = false) (hpc : m.pc.toNat < 4095)
    (hw : Instruction.decode? m.word = some i) (hf : m.faultOf i = some f) :
    (m.cycle random).result = .error f := by
  rw [cycle_of_fetch hp (by omega), runWord, hw]
  simp only [execute_of_faultOf random (Instruction.fits_of_decode? hw) hf]
  rfl

theorem result_cycle_of_nextFault (random : UInt8) (hm : m.memory.size = 4096)
    (hp : m.flags.isPaused = false) (h : NextFault m f) : (m.cycle random).result = .error f := by
  cases h with
  | fetch hpc =>
    rw [cycle, hp, fetch_of_le (by omega), hm]
    rfl
  | unknown hpc hw =>
    rw [cycle_of_fetch hp (by omega), runWord, (Instruction.decode?_eq_none_iff _).2 hw]
    rfl
  | ret hpc hw hs =>
    refine result_cycle_of_faultOf hm hp hpc (i := .system .ret) (by rw [hw]; rfl) ?_
    rw [faultOf, if_pos (List.length_eq_zero_iff.1 hs)]
  | call hpc hw hs =>
    refine result_cycle_of_faultOf hm hp hpc (Instruction.decode?_of_kind_call hw) ?_
    rw [faultOf, if_pos (show stackDepth ≤ m.stack.length from hs)]
  | draw hpc hw hi =>
    refine result_cycle_of_faultOf hm hp hpc (Instruction.decode?_of_kind_draw hw) ?_
    exact blockFault_eq_some.2 ⟨by rw [Word.toNat_ofNat_low]; omega, rfl⟩
  | digits hpc hw hb hi =>
    refine result_cycle_of_faultOf hm hp hpc (Instruction.decode?_of_kind_misc .digits hw hb) ?_
    exact blockFault_eq_some.2 ⟨by omega, rfl⟩
  | registers hpc hw hb hi =>
    rcases hb with hb | hb
    · refine result_cycle_of_faultOf hm hp hpc (Instruction.decode?_of_kind_misc .store hw hb) ?_
      exact blockFault_eq_some.2 ⟨by omega, rfl⟩
    · refine result_cycle_of_faultOf hm hp hpc (Instruction.decode?_of_kind_misc .load hw hb) ?_
      exact blockFault_eq_some.2 ⟨by omega, rfl⟩

/-- **A cycle fails in the ways listed and in no other.**  A machine that is paused stands still
without a fault; any other one fails with just the faults of `NextFault`, and succeeds where there
are none. -/
theorem cycle_error_iff (hm : m.memory.size = 4096) (random : UInt8) :
    (m.flags.isPaused = true → m.cycle random = .done m) ∧
    (m.flags.isPaused = false →
      (∀ f, (m.cycle random).result = .error f ↔ NextFault m f) ∧
      ((m.cycle random).result = .ok () ↔ ∀ f, ¬ NextFault m f)) := by
  refine ⟨fun hp => by rw [cycle, if_pos hp], fun hp => ?_⟩
  have hf : ∀ f, (m.cycle random).result = .error f ↔ NextFault m f := fun f =>
    ⟨nextFault_of_cycle hm, result_cycle_of_nextFault random hm hp⟩
  refine ⟨hf, fun h f hn => ?_, fun h => ?_⟩
  · rw [← hf f, h] at hn
    cases hn
  · cases hr : (m.cycle random).result with
    | ok => rfl
    | error f => exact absurd ((hf f).1 hr) (h f)

/-- The glyph of the digit 1, read as a call, overflows a full stack. -/
theorem cycle_error_iff_on_full_stack :
    let m : Machine := { pc := 0x55, stack := List.replicate 16 0x300 }
    m.memory.size = 4096 ∧ (m.cycle 0).result = .error (.stackOverflow 0x55) := by
  intro m
  have hm : m.memory.size = 4096 := Memory.size_initial
  refine ⟨hm, (((cycle_error_iff hm 0).2 rfl).1 _).2 (.call (by decide) ?_ (by decide))⟩
  decide +kernel

/-! ## What a failed cycle leaves behind -/

/-- The faults of execution are three, and none of them can be stepped over. -/
theorem kind_of_faultOf {i : Instruction} (h : m.faultOf i = some f) :
    (∃ a, f = .outOfBounds a) ∨ f = .stackOverflow m.pc ∨ f = .stackUnderflow m.pc := by
  obtain ⟨-, -, rfl⟩ | ⟨-, -, -, rfl⟩ | ⟨-, -, -, -, -, rfl⟩ | ⟨-, -, -, rfl⟩ | ⟨-, -, -, rfl⟩ |
    ⟨-, -, -, rfl⟩ := faultOf_cases h
  · exact .inr (.inr rfl)
  · exact .inr (.inl rfl)
  all_goals exact .inl ⟨_, rfl⟩

theorem isRecoverable_of_faultOf {i : Instruction} (h : m.faultOf i = some f) :
    f.isRecoverable = false := by
  obtain ⟨a, rfl⟩ | rfl | rfl := kind_of_faultOf h <;> rfl

/-- A fault that cannot be stepped over leaves the machine as it was, and is of one of three
kinds. -/
theorem state_of_unrecoverable (h : (m.cycle random).result = .error f)
    (hf : f.isRecoverable = false) :
    (m.cycle random).state = m ∧
      ((∃ a, f = .outOfBounds a) ∨ (∃ a, f = .stackOverflow a) ∨ ∃ a, f = .stackUnderflow a) := by
  obtain ⟨-, rfl, hs⟩ | ⟨-, -, rfl, -⟩ | ⟨-, ⟨i, -, hi⟩, hs⟩ := cycle_error_cases h
  · exact ⟨hs, .inl ⟨_, rfl⟩⟩
  · cases hf
  · obtain ⟨a, rfl⟩ | rfl | rfl := kind_of_faultOf hi
    · exact ⟨hs, .inl ⟨_, rfl⟩⟩
    · exact ⟨hs, .inr (.inl ⟨_, rfl⟩)⟩
    · exact ⟨hs, .inr (.inr ⟨_, rfl⟩)⟩

/-- A word that is no instruction is named with its address, stepped over and counted. -/
theorem state_of_unknownOpcode {w a : UInt16}
    (h : (m.cycle random).result = .error (.unknownOpcode w a)) :
    a = m.pc ∧ w = m.word ∧ m.pc.toNat + 1 < m.memory.size ∧
      (m.cycle random).state = m.stepPast.counted := by
  obtain ⟨-, hf, -⟩ | ⟨hpc, -, hf, hs⟩ | ⟨-, ⟨i, -, hi⟩, -⟩ := cycle_error_cases h
  · cases hf
  · obtain ⟨rfl, rfl⟩ := Fault.unknownOpcode.inj hf
    exact ⟨rfl, rfl, hpc, hs⟩
  · have hr := isRecoverable_of_faultOf hi
    cases hr

/-- **A cycle that fails leaves nothing half done.**  After a fault that cannot be stepped over the
machine is as it was, in every part.  After an unknown word, which is the one stored at the program
counter, high byte first, only the program counter and the number of cycles have moved on. -/
theorem cycle_atomic (h : (m.cycle random).result = .error f) :
    (f.isRecoverable = false →
      (m.cycle random).state = m ∧
        ((∃ a, f = .outOfBounds a) ∨ (∃ a, f = .stackOverflow a) ∨ ∃ a, f = .stackUnderflow a)) ∧
    ∀ w a, f = .unknownOpcode w a →
      a = m.pc ∧
        (∃ hi lo, m.memory.bytes[m.pc.toNat]? = some hi ∧
          m.memory.bytes[m.pc.toNat + 1]? = some lo ∧
          w.toNat = 0x100 * hi.toNat + lo.toNat) ∧
        (m.cycle random).state = { m with pc := m.pc + 2, cycles := m.cycles + 1 } := by
  refine ⟨state_of_unrecoverable h, ?_⟩
  rintro w a rfl
  obtain ⟨rfl, rfl, hpc, hs⟩ := state_of_unknownOpcode h
  refine ⟨rfl, ⟨_, _, Memory.getElem?_of_lt (by omega), Memory.getElem?_of_lt hpc, ?_⟩, hs⟩
  exact Word.toNat_ofBytes _ _

/-- The first two bytes of the glyph of the digit 0 are no instruction. -/
theorem cycle_atomic_on_glyph :
    let m : Machine := { pc := 0x50 }
    (m.cycle 0).result = .error (.unknownOpcode 0xf090 0x50) ∧
      (m.cycle 0).state = { m with pc := 0x52, cycles := 1 } := by
  intro m
  have hw : m.word = 0xf090 := by decide +kernel
  have hn : NextFault m (.unknownOpcode m.word m.pc) :=
    .unknown (by decide) ((Instruction.decode?_eq_none_iff _).1 (by rw [hw]; decide))
  have h := result_cycle_of_nextFault 0 Memory.size_initial rfl hn
  rw [hw] at h
  exact ⟨h, ((cycle_atomic h).2 _ _ rfl).2.2⟩

end Machine

end Chip8
