import Chip8.Proofs.Machine.Loading
import Chip8.Proofs.Machine.Locality
import Chip8.Proofs.Machine.Runs
import Chip8.Proofs.Machine.Writes
import Chip8.Proofs.Memory.Store

/-!
# What an operation writes to memory

A cycle writes to memory if it executes one of two instructions.  From outside there are two more
ways to do so, loading a program and editing.  Which bytes an operation writes can be told from the
console before it, without performing it; all the others are the same afterwards, and so are those
that no operation of a list writes, however long the list.

## What is here

* `Machine.WritesByte`, `Console.WritesByte` — the bytes that the next cycle and an operation write.
* `Machine.agreeOutside_cycle`, `Console.agreeOutside_run`, `Console.agreeOutside_perform` — a
  cycle, a run of cycles and an operation change at most what they write.
* `Console.agreeOutside_performAll` — so does a list of operations.
-/

set_option autoImplicit false

namespace Chip8

instance {w : UInt16} {a k : Nat} : Decidable (Word.WritesByte w a k) :=
  inferInstanceAs (Decidable (Word.kind w = 0xf ∧ (Word.byte w = 0x33 ∧ a ≤ k ∧ k < a + 3 ∨
    Word.byte w = 0x55 ∧ a ≤ k ∧ k ≤ a + (Word.x w).toNat)))

/-! ## Cycles -/

namespace Machine

variable {D : Nat → Prop} {m : Machine} {k : Nat}

/-- The next cycle writes the byte `k` of memory. -/
def WritesByte (m : Machine) (k : Nat) : Prop :=
  (∃ i, m.Executes i) ∧ Word.WritesByte m.word m.index.toNat k

instance : Decidable (m.WritesByte k) :=
  decidable_of_iff (m.executed?.isSome = true ∧ Word.WritesByte m.word m.index.toNat k)
    (by simp only [WritesByte, Option.isSome_iff_exists, executed?_eq_some_iff])

/-- **A cycle changes at most the bytes that it writes.** -/
theorem agreeOutside_cycle (h : ∀ k, m.WritesByte k → D k) (random : UInt8) :
    m.memory.AgreeOutside D (m.cycle random).state.memory := by
  have hframed := m.framed_cycle random
  refine ⟨hframed.memory_size, fun k hk => ?_⟩
  rcases m.state_cycle_cases random with hs | hs | ⟨i, hi⟩
  · rw [hs]
  · rw [hs]
    rfl
  · exact hframed.byte k fun hw => hk (h k ⟨⟨i, hi⟩, hw⟩)

/-- Loading a program changes nothing below its place, and nothing at all if there is no room. -/
theorem agreeOutside_load {program : List UInt8}
    (h : ∀ k, program.length ≤ 0xe00 ∧ 0x200 ≤ k → D k) :
    m.memory.AgreeOutside D (m.load program).state.memory := by
  rcases Nat.lt_or_ge Memory.programLimit program.length with hlt | hle
  · rw [load_of_lt hlt]
    exact .refl D _
  · rw [load_of_le hle]
    refine ⟨Memory.size_loaded _ _, fun k hk => ?_⟩
    have hlow : k < Memory.programStart := Nat.lt_of_not_le fun hlo => hk (h k ⟨hle, hlo⟩)
    rw [Memory.getElem?_loaded, if_pos hlow]

theorem memory_press (m : Machine) (k : Nat) : (m.press k).state.memory = m.memory := by
  rw [press]
  split
  · dsimp only
    split <;> rfl
  · rfl

theorem memory_release (m : Machine) (k : Nat) : (m.release k).state.memory = m.memory := by
  rw [release]
  split <;> rfl

end Machine

/-! ## Operations -/

namespace Console

variable {D : Nat → Prop} {c : Console} {op : Operation} {ops : List Operation} {k : Nat}

/-- The operation writes the byte `k` of memory: a load writes the whole place of programs, an edit
what it has room for, and cycles write what their instructions do. -/
def WritesByte (c : Console) (k : Nat) : Operation → Prop
  | .load program => program.length ≤ 0xe00 ∧ 0x200 ≤ k
  | .edit e => (e.given? k).isSome = true
  | op => ∃ m ∈ c.starts op, m.WritesByte k

instance : Decidable (c.WritesByte k op) := by
  cases op <;> simp only [WritesByte] <;> infer_instance

/-- A run of cycles changes at most the bytes that its cycles write. -/
theorem agreeOutside_run {n : Nat} (h : ∀ m ∈ c.runStarts n, ∀ k, m.WritesByte k → D k) :
    c.machine.memory.AgreeOutside D (c.run n).state.machine.memory :=
  run_induction_of (motive := fun c' => c.machine.memory.AgreeOutside D c'.machine.memory) h
    (.refl D _) fun c' hc' hsame => hsame.trans (Machine.agreeOutside_cycle hc' c'.entropy.next)

theorem memory_edit (c : Console) (e : Memory.Edit) :
    (c.edit e).state.machine.memory = c.machine.memory.edit e := rfl

/-- **An operation changes at most the bytes that it writes.** -/
theorem agreeOutside_perform (hsize : c.machine.memory.size = Memory.capacity)
    (h : ∀ k, c.WritesByte k op → D k) :
    c.machine.memory.AgreeOutside D (c.perform op).state.machine.memory := by
  cases op with
  | load program => exact Machine.agreeOutside_load h
  | cycle =>
    exact Machine.agreeOutside_cycle (fun k hk => h k ⟨_, List.mem_singleton_self _, hk⟩) _
  | run n => exact agreeOutside_run fun m hm k hk => h k ⟨m, hm, hk⟩
  | press k =>
    show c.machine.memory.AgreeOutside D (c.machine.press k).state.memory
    rw [Machine.memory_press]
    exact .refl D _
  | release k =>
    show c.machine.memory.AgreeOutside D (c.machine.release k).state.memory
    rw [Machine.memory_release]
    exact .refl D _
  | edit e =>
    show c.machine.memory.AgreeOutside D (c.edit e).state.machine.memory
    rw [memory_edit]
    refine ⟨(Memory.size_edit hsize e).trans hsize.symm, fun k hk => ?_⟩
    have hnone : e.given? k = none := Option.not_isSome_iff_eq_none.1 fun hw => hk (h k hw)
    rw [Memory.getElem?_edit hsize, hnone, Option.none_or]
  | tick | setRegister | reset | togglePause | setKeyWait | setDialect => exact .refl D _

/-- **A list of operations changes at most the bytes that they write.** -/
theorem agreeOutside_performAll (hsize : c.machine.memory.size = Memory.capacity)
    (h : c.Throughout (fun c op => ∀ k, c.WritesByte k op → D k) ops) :
    c.machine.memory.AgreeOutside D (c.performAll ops).machine.memory :=
  performAll_induction_of h
    (motive := fun c' => c.machine.memory.AgreeOutside D c'.machine.memory) (.refl D _)
    fun _ _ hop hsame => hsame.trans (agreeOutside_perform (hsame.size.trans hsize) hop)

end Console

end Chip8
