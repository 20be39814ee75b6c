import Chip8.Proofs.Machine.Transition

/-!
# What a cycle executes, and what it leaves alone

Most instructions work on registers, memory, screen, index, timers and the program counter.  The
flags, the stack and the target of a key wait are out of their reach, and so are the keys and the
number of cycles.  Three instructions are the exceptions, and for them the machine afterwards is
written out in full.

## What is here

* `Machine.cycleFault` — the fault of the next cycle, if it fails; it does not depend on the random
  byte.
* `Machine.Executes` — the next cycle executes an instruction, and `Machine.executes_iff`, when that
  is so; `Machine.executed?`, which one it is.
* `Machine.Control`, `Machine.control` — what is out of reach of most instructions, and
  `control_execute`, that it is.
* `state_of_executes_call`, `state_of_executes_ret`, `state_of_executes_waitKey` — what the three
  others do.
* `control_of_executes` — one of these applies to every instruction, and `state_cycle_cases`, what a
  cycle does that executes none.
* `cycles_of_executes`, `keys_cycle`, `keyWait_cycle` — what follows for single parts.
-/

set_option autoImplicit false

namespace Chip8

namespace Machine

variable {m : Machine} {i : Instruction} {f : Fault} {random : UInt8}

/-! ## The fault of the next cycle -/

/-- The fault of the next cycle, if it fails. -/
def cycleFault (m : Machine) : Option Fault :=
  if m.flags.isPaused then none
  else if m.memory.size ≤ m.pc.toNat + 1 then some (.outOfBounds (max m.pc.toNat m.memory.size))
  else match Instruction.decode? m.word with
    | none => some (.unknownOpcode m.word m.pc)
    | some i => m.faultOf i

/-- **What a cycle answers can be read off the machine**, whatever the random byte. -/
theorem result_cycle (m : Machine) (random : UInt8) :
    (m.cycle random).result = match m.cycleFault with
      | none => .ok ()
      | some f => .error f := by
  have ht := m.transition random
  generalize m.cycle random = o at ht
  cases ht with
  | paused hp => rw [cycleFault, if_pos hp]; rfl
  | unreadable hp hpc => rw [cycleFault, if_neg (by rw [hp]; decide), if_pos hpc]; rfl
  | unknown hp hpc hw =>
    rw [cycleFault, if_neg (by rw [hp]; decide), if_neg (by omega), hw]
  | failed hp hpc hw hf =>
    rw [cycleFault, if_neg (by rw [hp]; decide), if_neg (by omega), hw]
    simp only [hf]
  | executed hp hpc hw hf =>
    rw [cycleFault, if_neg (by rw [hp]; decide), if_neg (by omega), hw]
    simp only [hf]

theorem result_cycle_eq_error_iff :
    (m.cycle random).result = .error f ↔ m.cycleFault = some f := by
  rw [result_cycle]
  cases m.cycleFault <;> simp

theorem result_cycle_eq_ok_iff : (m.cycle random).result = .ok () ↔ m.cycleFault = none := by
  rw [result_cycle]
  cases m.cycleFault <;> simp

/-- A machine that is paused does not fail. -/
theorem awake_of_cycleFault (h : m.cycleFault = some f) : m.flags.isPaused = false := by
  cases hp : m.flags.isPaused with
  | false => rfl
  | true =>
    rw [cycleFault, if_pos hp] at h
    cases h

/-! ## Executing an instruction -/

/-- The next cycle executes the instruction `i`: the machine is not paused, the word at the program
counter stands for `i`, and the cycle does not fail. -/
structure Executes (m : Machine) (i : Instruction) : Prop where
  /-- The machine does not stand still. -/
  awake : m.flags.isPaused = false
  /-- The word at the program counter stands for the instruction. -/
  fetched : ∃ w, m.fetch = .ok w ∧ Instruction.decode? w = some i
  /-- The cycle succeeds, whatever the random byte. -/
  succeeds : ∀ random, (m.cycle random).result = .ok ()

/-- A word can be fetched only where memory has both of its bytes. -/
theorem lt_and_eq_of_fetch {w : UInt16} (h : m.fetch = .ok w) :
    m.pc.toNat + 1 < m.memory.size ∧ w = m.word := by
  have hpc : m.pc.toNat + 1 < m.memory.size := by
    refine Nat.lt_of_not_le fun hpc => ?_
    rw [fetch_of_le hpc] at h
    cases h
  rw [fetch_of_lt hpc] at h
  cases h
  exact ⟨hpc, rfl⟩

theorem executes_iff :
    m.Executes i ↔ m.flags.isPaused = false ∧ m.pc.toNat + 1 < m.memory.size ∧
      Instruction.decode? m.word = some i ∧ m.faultOf i = none := by
  constructor
  · rintro ⟨hp, ⟨w, hfetch, hw⟩, hok⟩
    obtain ⟨hpc, rfl⟩ := lt_and_eq_of_fetch hfetch
    have hf := result_cycle_eq_ok_iff.1 (hok 0)
    rw [cycleFault, if_neg (by rw [hp]; decide), if_neg (by omega), hw] at hf
    exact ⟨hp, hpc, hw, hf⟩
  · rintro ⟨hp, hpc, hw, hf⟩
    refine ⟨hp, ⟨m.word, fetch_of_lt hpc, hw⟩, fun random => result_cycle_eq_ok_iff.2 ?_⟩
    rw [cycleFault, if_neg (by rw [hp]; decide), if_neg (by omega), hw]
    exact hf

instance : Decidable (m.Executes i) := decidable_of_iff _ executes_iff.symm

/-- The instruction that the next cycle executes, if it executes one. -/
def executed? (m : Machine) : Option Instruction :=
  (Instruction.decode? m.word).filter fun i => decide (m.Executes i)

theorem executed?_eq_some_iff : m.executed? = some i ↔ m.Executes i := by
  rw [executed?, Option.filter_eq_some_iff, decide_eq_true_eq]
  exact ⟨And.right, fun h => ⟨(executes_iff.1 h).2.2.1, h⟩⟩

/-- A cycle that succeeds on a machine that is not paused executes some instruction. -/
theorem exists_executes (hp : m.flags.isPaused = false) (h : (m.cycle random).result = .ok ()) :
    ∃ i, m.Executes i := by
  have ht := m.transition random
  generalize m.cycle random = o at h ht
  cases ht with
  | paused hp' => rw [hp] at hp'; cases hp'
  | unreadable | unknown | failed => cases h
  | executed hp hpc hw hf => exact ⟨_, executes_iff.2 ⟨hp, hpc, hw, hf⟩⟩

/-- The one instruction that takes a random byte does not fail. -/
theorem executes_of_takesRandom (h : m.takesRandom = true) : ∃ x b, m.Executes (.random x b) := by
  rw [takesRandom, Bool.and_eq_true, Bool.not_eq_true'] at h
  obtain ⟨hp, h⟩ := h
  cases hfetch : m.fetch with
  | error f =>
    rw [hfetch] at h
    cases h
  | ok w =>
    obtain ⟨hpc, rfl⟩ := lt_and_eq_of_fetch hfetch
    rw [hfetch] at h
    dsimp only at h
    split at h
    · rename_i x b hw
      exact ⟨x, b, executes_iff.2 ⟨hp, hpc, hw, rfl⟩⟩
    · cases h

/-- The machine after an instruction was executed. -/
theorem state_of_executes (h : m.Executes i) (random : UInt8) :
    (m.cycle random).state = (m.stepPast.execute random i).state.counted := by
  obtain ⟨hp, hpc, hw, hf⟩ := executes_iff.1 h
  rw [cycle_of_fetch hp hpc, runWord, hw]
  have hr := result_execute_of_faultOf random (Instruction.fits_of_decode? hw) hf
  simp only [hr]
  rfl

/-! ## Out of reach of most instructions -/

/-- The parts of a machine that most instructions do not reach. -/
structure Control where
  /-- The flags. -/
  flags : Flags
  /-- The return addresses. -/
  stack : List UInt16
  /-- The keys. -/
  keys : Vector Bool 16
  /-- The register that a key wait fills. -/
  keyTarget : UInt64
  /-- The number of cycles. -/
  cycles : UInt64

/-- The parts of the machine that most instructions do not reach. -/
def control (m : Machine) : Control := ⟨m.flags, m.stack, m.keys, m.keyTarget, m.cycles⟩

/-- The three instructions that reach the stack or begin a key wait. -/
def reachesControl : Instruction → Bool
  | .system .ret => true
  | .call _ => true
  | .misc .waitKey _ => true
  | _ => false

/-- Counting a cycle is the same wherever the other parts come from. -/
theorem control_counted {n : Machine} (h : m.control = n.control) :
    m.counted.control = n.counted.control :=
  congrArg (fun c => { c with cycles := c.cycles + 1 }) h

theorem control_skipIf (m : Machine) (c : Bool) : (m.skipIf c).control = m.control := by
  cases c <;> rfl

theorem control_setBitwise (m : Machine) (x : Nat) (b : UInt8) :
    (m.setBitwise x b).control = m.control := by
  rw [setBitwise]
  split <;> rfl

theorem control_alu (m : Machine) (op : AluOp) (x y : Nat) :
    (m.alu op x y).control = m.control := by
  cases op with
  | or | and | xor => exact control_setBitwise m _ _
  | copy | add | sub | shiftRight | subFrom | shiftLeft => rfl

theorem control_draw (m : Machine) (x y n : Nat) : (m.draw x y n).state.control = m.control := by
  rw [draw]
  split <;> rfl

theorem control_afterTransfer (m : Machine) (x : Nat) :
    (m.afterTransfer x).control = m.control := by
  rw [afterTransfer]
  split <;> rfl

theorem control_storeDigits (m : Machine) (x : Nat) :
    (m.storeDigits x).state.control = m.control := rfl

theorem control_storeRegisters (m : Machine) (x : Nat) :
    (m.storeRegisters x).state.control = m.control := by
  rw [storeRegisters]
  split
  · rfl
  · exact (control_afterTransfer _ x).trans (by simp only [control])

theorem control_loadRegisters (m : Machine) (x : Nat) :
    (m.loadRegisters x).state.control = m.control := by
  rw [loadRegisters]
  split
  · rfl
  · exact (control_afterTransfer _ x).trans (by simp only [control])

/-- **All but three instructions leave flags, stack, keys, key target and the number of cycles
alone**, also where they fail. -/
theorem control_execute (m : Machine) (random : UInt8) (h : reachesControl i = false) :
    (m.execute random i).state.control = m.control := by
  cases i with
  | system op =>
    cases op with
    | clearScreen => rfl
    | ret => cases h
  | call a => cases h
  | skipEqByte | skipNeByte | skipEq | skipNe => exact control_skipIf m _
  | alu op x y => exact control_alu m op _ _
  | draw x y n => exact control_draw m _ _ _
  | key op x => cases op <;> exact control_skipIf m _
  | misc op x =>
    cases op with
    | waitKey => cases h
    | digits => exact control_storeDigits m _
    | store => exact control_storeRegisters m _
    | load => exact control_loadRegisters m _
    | readDelay | setDelay | setSound | addIndex | glyph => rfl
  | jump | setByte | addByte | setIndex | jumpOffset | random => rfl

/-! ## The three exceptions -/

/-- A call puts the address behind it on the stack. -/
theorem state_of_executes_call {a : UInt16} (h : m.Executes (.call a)) (random : UInt8) :
    (m.cycle random).state =
      { m with stack := (m.pc + 2) :: m.stack, pc := a, cycles := m.cycles + 1 } := by
  obtain ⟨-, -, -, hf⟩ := executes_iff.1 h
  have hd : ¬ stackDepth ≤ m.stepPast.stack.length := by
    intro hd
    rw [faultOf, if_pos (show stackDepth ≤ m.stack.length from hd)] at hf
    cases hf
  rw [state_of_executes h, execute, call, if_neg hd]
  rfl

/-- A return takes an address from the stack and goes there. -/
theorem state_of_executes_ret (h : m.Executes (.system .ret)) (random : UInt8) :
    ∃ a rest, m.stack = a :: rest ∧
      (m.cycle random).state = { m with stack := rest, pc := a, cycles := m.cycles + 1 } := by
  obtain ⟨-, -, -, hf⟩ := executes_iff.1 h
  rw [state_of_executes h, execute, ret]
  cases hs : m.stack with
  | nil =>
    rw [faultOf, if_pos hs] at hf
    cases hf
  | cons a rest =>
    rw [show m.stepPast.stack = a :: rest from hs]
    exact ⟨a, rest, rfl, rfl⟩

/-- A key wait notes its register and halts the machine. -/
theorem state_of_executes_waitKey {x : UInt64} (h : m.Executes (.misc .waitKey x))
    (random : UInt8) :
    (m.cycle random).state =
      { m with
        flags := { m.flags with keyWait := true }, pc := m.pc + 2, keyTarget := x,
        cycles := m.cycles + 1 } := by
  rw [state_of_executes h]
  rfl

/-! ## Cycles -/

/-- **What an instruction can do to flags, stack, keys and the number of cycles**: count itself,
and, if it is one of the three exceptions, what is written out above. -/
theorem control_of_executes (h : m.Executes i) (random : UInt8) :
    (m.cycle random).state.control = m.counted.control ∨
    (∃ a, i = .call a ∧ (m.cycle random).state =
      { m with stack := (m.pc + 2) :: m.stack, pc := a, cycles := m.cycles + 1 }) ∨
    (∃ a rest, i = .system .ret ∧ m.stack = a :: rest ∧
      (m.cycle random).state = { m with stack := rest, pc := a, cycles := m.cycles + 1 }) ∨
    ∃ x, i = .misc .waitKey x ∧ (m.cycle random).state =
      { m with
        flags := { m.flags with keyWait := true }, pc := m.pc + 2, keyTarget := x,
        cycles := m.cycles + 1 } := by
  cases hi : reachesControl i with
  | false =>
    rw [state_of_executes h]
    exact .inl (control_counted (control_execute m.stepPast random hi))
  | true =>
    unfold reachesControl at hi
    split at hi
    · obtain ⟨a, rest, hs, hstate⟩ := state_of_executes_ret h random
      exact .inr (.inr (.inl ⟨a, rest, rfl, hs, hstate⟩))
    · exact .inr (.inl ⟨_, rfl, state_of_executes_call h random⟩)
    · exact .inr (.inr (.inr ⟨_, rfl, state_of_executes_waitKey h random⟩))
    · cases hi

/-- Every instruction executed is counted. -/
theorem cycles_of_executes (h : m.Executes i) (random : UInt8) :
    (m.cycle random).state.cycles = m.cycles + 1 := by
  obtain hc | ⟨a, -, hs⟩ | ⟨a, rest, -, -, hs⟩ | ⟨x, -, hs⟩ := control_of_executes h random
  · exact congrArg Control.cycles hc
  all_goals rw [hs]

/-- A cycle leaves the machine alone, steps over a word, or executes an instruction. -/
theorem state_cycle_cases (m : Machine) (random : UInt8) :
    (m.cycle random).state = m ∨ (m.cycle random).state = m.stepPast.counted ∨
      ∃ i, m.Executes i := by
  have ht := m.transition random
  generalize m.cycle random = o at ht
  cases ht with
  | paused | unreadable | failed => exact .inl rfl
  | unknown => exact .inr (.inl rfl)
  | executed hp hpc hw hf => exact .inr (.inr ⟨_, executes_iff.2 ⟨hp, hpc, hw, hf⟩⟩)

/-- No cycle reaches the keys. -/
theorem keys_cycle (m : Machine) (random : UInt8) : (m.cycle random).state.keys = m.keys := by
  obtain hs | hs | ⟨i, hi⟩ := m.state_cycle_cases random
  · rw [hs]
  · rw [hs]
    rfl
  · obtain hc | ⟨a, -, hs⟩ | ⟨a, rest, -, -, hs⟩ | ⟨x, -, hs⟩ := control_of_executes hi random
    · exact congrArg Control.keys hc
    all_goals rw [hs]

/-- Only one instruction makes a machine wait for a key. -/
theorem keyWait_cycle (h : m.flags.keyWait = false) (random : UInt8)
    (hx : ∀ x, ¬ m.Executes (.misc .waitKey x)) :
    (m.cycle random).state.flags.keyWait = false := by
  obtain hs | hs | ⟨i, hi⟩ := m.state_cycle_cases random
  · rw [hs]
    exact h
  · rw [hs]
    exact h
  · obtain hc | ⟨a, -, hs⟩ | ⟨a, rest, -, -, hs⟩ | ⟨x, rfl, hs⟩ := control_of_executes hi random
    · rw [show (m.cycle random).state.flags = m.flags from congrArg Control.flags hc]
      exact h
    · rw [hs]
      exact h
    · rw [hs]
      exact h
    · exact absurd hi (hx x)

end Machine

end Chip8
