import Chip8.Proofs.Machine.Transition

/-!
# Skips

Six words make a test and step over the next instruction by its outcome.  There are three tests, on
a register and a byte, on two registers, and on the key that a register names; for each of them one
word skips if the test holds and the other one if it does not.  A cycle with such a word does
nothing else, and always succeeds.

## What is here

* `Test` — the three tests; `Test.Holds`, what each looks at, and `Test.word`, the two words that
  make it.
* `Test.Skips` — whether a word skips.
* `Test.decode?_word` — what the two words stand for, and `Machine.execute_test`, what this does.
* `Machine.skip_exact` — a cycle with one of the six words, and that of two words with the same test
  exactly one skips.
-/

set_option autoImplicit false

namespace Chip8

/-! ## Tests -/

/-- What a skip looks at. -/
inductive Test where
  /-- The register `x` holds `b`. -/
  | byte (x : Fin 16) (b : UInt8)
  /-- The registers `x` and `y` hold the same. -/
  | registers (x y : Fin 16)
  /-- The key named by the last digit of the register `x` is held. -/
  | key (x : Fin 16)

namespace Test

variable {m : Machine} {t : Test} {positive : Bool} {random : UInt8}

/-- The test holds on a machine. -/
def Holds (m : Machine) : Test → Prop
  | .byte x b => m.reg x = b
  | .registers x y => m.reg x = m.reg y
  | .key x => m.held ((m.reg x).toNat % 16) = true

instance : Decidable (t.Holds m) := by
  cases t <;> simp only [Holds] <;> infer_instance

/-- The two words that make a test: the positive one, which skips if the test holds, and the
negative one, which skips if it does not. -/
def word : Test → Bool → UInt16
  | .byte x b, true => .ofNat (0x3000 + 0x100 * x + b.toNat)
  | .byte x b, false => .ofNat (0x4000 + 0x100 * x + b.toNat)
  | .registers x y, true => .ofNat (0x5000 + 0x100 * x + 0x10 * y)
  | .registers x y, false => .ofNat (0x9000 + 0x100 * x + 0x10 * y)
  | .key x, true => .ofNat (0xe09e + 0x100 * x)
  | .key x, false => .ofNat (0xe0a1 + 0x100 * x)

/-- The positive or the negative word of the test skips on this machine. -/
def Skips (m : Machine) (t : Test) (positive : Bool) : Prop := t.Holds m ↔ positive = true

instance : Decidable (t.Skips m positive) := inferInstanceAs (Decidable (_ ↔ _))

theorem skips_not : t.Skips m (!positive) ↔ ¬ t.Skips m positive := by
  cases positive <;> simp [Skips]

/-- The instruction that a word of the test stands for. -/
def instruction : Test → Bool → Instruction
  | .byte x b, true => .skipEqByte (.ofNat x) b
  | .byte x b, false => .skipNeByte (.ofNat x) b
  | .registers x y, true => .skipEq (.ofNat x) (.ofNat y)
  | .registers x y, false => .skipNe (.ofNat x) (.ofNat y)
  | .key x, true => .key .skipHeld (.ofNat x)
  | .key x, false => .key .skipFree (.ofNat x)

theorem fits_instruction (t : Test) (positive : Bool) : (t.instruction positive).Fits := by
  have hlt : ∀ x : Fin 16, (UInt64.ofNat x).toNat < 0x10 := fun x => by
    rw [Instruction.toNat_register]
    exact x.isLt
  cases t with
  | byte x b => cases positive <;> exact hlt x
  | registers x y => cases positive <;> exact ⟨hlt x, hlt y⟩
  | key x => cases positive <;> exact hlt x

theorem encode_instruction (t : Test) (positive : Bool) :
    (t.instruction positive).encode = t.word positive := by
  cases t <;> cases positive <;>
    simp only [instruction, word, Instruction.encode, Instruction.wordOfByte,
      Instruction.wordOfDigit, Instruction.toNat_register, KeyOp.code] <;>
    congr 1 <;> omega

/-- What the words of a test stand for. -/
theorem decode?_word (t : Test) (positive : Bool) :
    Instruction.decode? (t.word positive) = some (t.instruction positive) := by
  rw [← encode_instruction]
  exact Instruction.decode?_encode (t.fits_instruction positive)

end Test

/-! ## Cycles -/

namespace Machine

variable {m : Machine} {t : Test} {positive : Bool}

/-- The instruction of a test skips if its word does. -/
theorem execute_test (m : Machine) (t : Test) (positive : Bool) (random : UInt8) :
    m.execute random (t.instruction positive) = .done (m.skipIf (decide (t.Skips m positive))) := by
  cases t <;> cases positive <;>
    simp only [Test.instruction, execute, namedKeyHeld, Instruction.toNat_register, Test.Skips,
      Test.Holds] <;>
    simp

/-- A machine that skips or not, by how far its program counter moves. -/
theorem skipIf_stepPast (m : Machine) (c : Bool) :
    (m.stepPast.skipIf c).counted =
      { m with pc := m.pc + if c then 4 else 2, cycles := m.cycles + 1 } := by
  cases c with
  | false => rfl
  | true =>
    have hpc : m.pc + 2 + 2 = m.pc + 4 := UInt16.add_assoc _ _ _
    simp only [skipIf, stepPast, counted, if_true, hpc]

/-- **A skip moves the program counter by four or by two, and does nothing else.** -/
theorem cycle_test (hp : m.flags.isPaused = false) (hpc : m.pc.toNat + 1 < m.memory.size)
    (hw : m.word = t.word positive) (random : UInt8) :
    m.cycle random =
      ⟨{ m with pc := m.pc + if t.Skips m positive then 4 else 2, cycles := m.cycles + 1 }, .ok (),
        [.fetched m.cycles m.pc m.word]⟩ := by
  have hskips : t.Skips m.stepPast positive ↔ t.Skips m positive := by
    cases t <;> rfl
  rw [cycle_of_fetch hp hpc, runWord, hw, t.decode?_word]
  simp only [execute_test, Outcome.done, Outcome.after, skipIf_stepPast, hskips, List.append_nil,
    decide_eq_true_eq]

/-- Of the two words of a test one skips and the other does not, whatever memory
holds: no test looks at it. -/
theorem skips_other_iff {memory : Memory} :
    t.Skips { m with memory } (!positive) ↔ ¬ t.Skips m positive := by
  rw [Test.skips_not]
  cases t <;> rfl

/-- **Skips are exact.**  A cycle with one of the six words succeeds.  It moves the program counter
on by four if the word skips and by two if it does not, counts itself, and changes nothing else.
Where two machines have the two words of one test at the program counter and differ at most in
memory, exactly one of them skips. -/
theorem skip_exact (hp : m.flags.isPaused = false) (hsize : m.memory.size = 0x1000)
    (hpc : m.pc.toNat ≤ 0xffe) (hw : m.word = t.word positive) (random : UInt8) :
    let step : UInt16 := if t.Skips m positive then 4 else 2
    m.cycle random = ⟨{ m with pc := m.pc + step, cycles := m.cycles + 1 }, .ok (),
        [.fetched m.cycles m.pc m.word]⟩ ∧
      (m.pc + step).toNat = m.pc.toNat + step.toNat ∧
      ∀ memory : Memory, memory.size = 0x1000 →
        let n : Machine := { m with memory }
        n.word = t.word (!positive) → ∀ random' : UInt8,
          let after := (m.cycle random).state.pc
          let after' := (n.cycle random').state.pc
          after = m.pc + 4 ∧ after' = m.pc + 2 ∨ after = m.pc + 2 ∧ after' = m.pc + 4 := by
  intro step
  have hcycle := cycle_test hp (by omega) hw random
  refine ⟨hcycle, ?_, ?_⟩
  · have hstep : step.toNat ≤ 4 := by
      dsimp only [step]
      split <;> decide
    rw [UInt16.toNat_add]
    omega
  · intro memory hsize' n hw' random' after after'
    have hpc' : n.pc.toNat + 1 < n.memory.size := by
      show m.pc.toNat + 1 < memory.size
      omega
    have hcycle' := cycle_test (m := n) hp hpc' hw' random'
    have hafter : after = m.pc + if t.Skips m positive then 4 else 2 := congrArg (·.state.pc) hcycle
    have hafter' : after' = m.pc + if t.Skips n (!positive) then 4 else 2 :=
      congrArg (·.state.pc) hcycle'
    rw [hafter, hafter']
    by_cases hs : t.Skips m positive
    · rw [if_pos hs, if_neg (fun h => skips_other_iff.1 h hs)]
      exact .inl ⟨rfl, rfl⟩
    · rw [if_neg hs, if_pos (skips_other_iff.2 hs)]
      exact .inr ⟨rfl, rfl⟩

set_option maxRecDepth 100000 in
/-- In the last two bytes of memory stands a skip on the key that register 2 names.  The register
holds `25`, and key 5 is held: the positive word skips, and with the negative word in its place the
machine goes on behind it. -/
theorem skip_exact_at_end :
    let program : Memory := ⟨Memory.blit Memory.initial.bytes 0xffe [0xe2, 0x9e]⟩
    let m := (({ memory := program, pc := 0xffe } : Machine).setReg 2 0x25).setKey 5 true
    let memory : Memory := ⟨Memory.blit Memory.initial.bytes 0xffe [0xe2, 0xa1]⟩
    let n : Machine := { m with memory }
    m.flags.isPaused = false ∧ m.memory.size = 0x1000 ∧ m.pc.toNat ≤ 0xffe ∧ memory.size = 0x1000 ∧
      m.word = (Test.key 2).word true ∧ n.word = (Test.key 2).word false ∧
      (m.cycle 0).result = .ok () ∧ (m.cycle 0).state.pc = 0x1002 ∧
      (n.cycle 0).state.pc = 0x1000 := by
  intro program m memory n
  have h : m.flags.isPaused = false ∧ m.memory.size = 0x1000 ∧ m.pc = 0xffe ∧
      memory.size = 0x1000 ∧ m.word = (Test.key 2).word true ∧ n.word = (Test.key 2).word false ∧
      (Test.key 2).Skips m true := by
    decide +kernel
  obtain ⟨hp, hsize, hpc, hsize', hw, hw', hskips⟩ := h
  have hle : m.pc.toNat ≤ 0xffe := by
    rw [hpc]
    decide
  clear_value memory m program
  obtain ⟨hcycle, -, hone⟩ := skip_exact hp hsize hle hw 0
  have hmoved : (m.cycle 0).state.pc = m.pc + 4 := by
    rw [hcycle, if_pos hskips]
  have hother : (n.cycle 0).state.pc = m.pc + 2 := by
    rcases hone memory hsize' hw' 0 with ⟨-, hn⟩ | ⟨hm, -⟩
    · exact hn
    · rw [hmoved, UInt16.add_right_inj] at hm
      exact absurd hm (by decide)
  rw [hpc] at hmoved hother
  exact ⟨hp, hsize, hle, hsize', hw, hw', by rw [hcycle], hmoved, hother⟩

end Machine

end Chip8
