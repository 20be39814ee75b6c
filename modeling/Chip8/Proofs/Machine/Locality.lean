import Mathlib.Logic.Basic
import Chip8.Proofs.Machine.Setting

/-!
# What a cycle reads of memory

A cycle reads the two bytes of the word at the program counter.  Two instructions read more, one the
rows of a sprite and one the bytes that go into registers; both read from the index on.  Two other
instructions write to memory, and what they write is not taken from there.  So two machines that
have the same bytes in these few places, and differ at most in other bytes, do the same, and differ
in the end at most in the bytes in which they did before.

## What is here

* `Word.ReadsByte` — the read set of a word, beside the word itself; `Instruction.ReadsByte` is the
  same by the instruction that the word stands for.
* `Memory.AgreeOutside` — two memories that differ at most at some addresses, and what the
  operations on memory make of them.
* `Machine.SameOutside` — two outcomes that are the same but for the memories.
* `Machine.execute_inMemory`, `Machine.cycle_inMemory` — an instruction and a
  cycle with another memory.
* `Machine.cycle_reads_window` — what a cycle reads of memory.
-/

set_option autoImplicit false

namespace Chip8

/-! ## Read sets -/

/-- `Dxyn` reads a byte for each row of its sprite from the index `a` on, and `Fx65` one for each
register that it loads. -/
def Word.ReadsByte (w : UInt16) (a k : Nat) : Prop :=
  kind w = 0xd ∧ a ≤ k ∧ k < a + low w ∨
    kind w = 0xf ∧ byte w = 0x65 ∧ a ≤ k ∧ k ≤ a + (x w).toNat

/-- The bytes that an instruction reads with the index at `a`. -/
def Instruction.ReadsByte (a k : Nat) : Instruction → Prop
  | .draw _ _ n => a ≤ k ∧ k < a + n.toNat
  | .misc .load x => a ≤ k ∧ k ≤ a + x.toNat
  | _ => False

theorem Instruction.readsByte_of_decode? {w : UInt16} {i : Instruction} {a k : Nat}
    (hw : decode? w = some i) (h : i.ReadsByte a k) : Word.ReadsByte w a k := by
  unfold Instruction.ReadsByte at h
  split at h
  · obtain ⟨hk, hn⟩ := parts_of_decode?_draw hw
    exact .inl ⟨hk, h.1, hn ▸ h.2⟩
  · obtain ⟨hk, hb, hx⟩ := parts_of_decode?_misc hw
    exact .inr ⟨hk, hb, h.1, hx ▸ h.2⟩
  · exact h.elim

/-! ## Memories that differ at some addresses -/

namespace Memory

/-- The memories are of one size and differ at most at the addresses in `D`. -/
structure AgreeOutside (D : Nat → Prop) (s t : Memory) : Prop where
  /-- The number of bytes. -/
  size : t.size = s.size
  /-- The bytes at other addresses. -/
  byte : ∀ k, ¬ D k → t.bytes[k]? = s.bytes[k]?

namespace AgreeOutside

variable {D : Nat → Prop} {s t u : Memory} {a len : Nat}

theorem refl (D : Nat → Prop) (s : Memory) : AgreeOutside D s s := ⟨rfl, fun _ _ => rfl⟩

theorem trans (h : AgreeOutside D s t) (h' : AgreeOutside D t u) : AgreeOutside D s u :=
  ⟨h'.size.trans h.size, fun k hk => (h'.byte k hk).trans (h.byte k hk)⟩

theorem byteAt (h : AgreeOutside D s t) (ha : ¬ D a) : t.byteAt a = s.byteAt a := by
  simp only [Memory.byteAt, h.byte a ha]

theorem block (h : AgreeOutside D s t) (hread : ∀ k, a ≤ k → k < a + len → ¬ D k) :
    t.block a len = s.block a len := by
  refine List.map_congr_left fun k hk => h.byteAt ?_
  rw [List.mem_range] at hk
  exact hread (a + k) (by omega) (by omega)

/-- A range outside of `D` is the same in both. -/
theorem range (h : AgreeOutside D s t) (hread : ∀ k, a ≤ k → k < a + len → ¬ D k) :
    t.range a len = s.range a len := by
  rcases Nat.lt_or_ge s.size (a + len) with hlt | hle
  · rw [range_of_lt hlt, range_of_lt (by rw [h.size]; exact hlt)]
  · rw [range_of_le hle, range_of_le (by rw [h.size]; exact hle), h.block hread]

/-- Writing the same bytes to both gives one result and leaves them as much alike as they were. -/
theorem overwrite (h : AgreeOutside D s t) (a : Nat) (bs : List UInt8) :
    (t.overwrite a bs).result = (s.overwrite a bs).result ∧
      AgreeOutside D (s.overwrite a bs).memory (t.overwrite a bs).memory := by
  rcases Nat.lt_or_ge s.size (a + bs.length) with hlt | hle
  · rw [overwrite_of_lt hlt, overwrite_of_lt (by rw [h.size]; exact hlt)]
    exact ⟨rfl, h⟩
  · rw [overwrite_of_le hle, overwrite_of_le (by rw [h.size]; exact hle)]
    refine ⟨rfl, by simpa [Memory.size] using h.size, fun k hk => ?_⟩
    have hsize : t.bytes.size = s.bytes.size := h.size
    rw [getElem?_blit, getElem?_blit, hsize, h.byte k hk]

end AgreeOutside

end Memory

/-! ## Instructions -/

namespace Machine

variable {D : Nat → Prop} {m : Machine} {memory : Memory} {i : Instruction}

/-- The machine with another memory. -/
def inMemory (m : Machine) (memory : Memory) : Machine := { m with memory }

/-- Two outcomes are the same but for the memories, which differ at most in `D`. -/
def SameOutside (D : Nat → Prop) {α : Type} (o o' : Outcome Machine α) : Prop :=
  ∃ memory, o' = o.mapState (·.inMemory memory) ∧ o.state.memory.AgreeOutside D memory

/-- What does not look at memory and leaves it alone keeps two machines as much alike as they
were. -/
theorem SameOutside.done {f : Machine → Machine}
    (hf : ∀ memory, f (m.inMemory memory) = (f m).inMemory memory)
    (h : m.memory.AgreeOutside D memory) :
    SameOutside D (.done (f m)) (.done (f (m.inMemory memory))) := by
  have hself : f m = (f m).inMemory m.memory := hf m.memory
  have hmemory : (f m).memory = m.memory := by
    rw [hself]
    rfl
  refine ⟨memory, congrArg Outcome.done (hf memory), ?_⟩
  show (f m).memory.AgreeOutside D memory
  rwa [hmemory]

theorem skipIf_inMemory (m : Machine) (memory : Memory) (c : Bool) :
    (m.inMemory memory).skipIf c = (m.skipIf c).inMemory memory := by
  cases c <;> rfl

theorem setBitwise_inMemory (m : Machine) (memory : Memory) (x : Nat) (b : UInt8) :
    (m.inMemory memory).setBitwise x b = (m.setBitwise x b).inMemory memory := by
  have hkeep : (m.inMemory memory).flags = m.flags := rfl
  rw [setBitwise, setBitwise, hkeep]
  split <;> rfl

theorem alu_inMemory (m : Machine) (memory : Memory) (op : AluOp) (x y : Nat) :
    (m.inMemory memory).alu op x y = (m.alu op x y).inMemory memory := by
  cases op with
  | or | and | xor => exact setBitwise_inMemory m memory _ _
  | copy | add | sub | shiftRight | subFrom | shiftLeft => rfl

theorem afterTransfer_inMemory (m : Machine) (memory : Memory) (x : Nat) :
    (m.inMemory memory).afterTransfer x = (m.afterTransfer x).inMemory memory := by
  have hkeep : (m.inMemory memory).flags = m.flags := rfl
  rw [afterTransfer, afterTransfer, hkeep]
  split <;> rfl

theorem afterTransfer_sameOutside (h : m.memory.AgreeOutside D memory) (x : Nat) :
    SameOutside D (.done (m.afterTransfer x)) (.done ((m.inMemory memory).afterTransfer x)) :=
  .done (f := (·.afterTransfer x)) (fun memory => afterTransfer_inMemory m memory x) h

/-- Drawing reads the rows of the sprite. -/
theorem draw_inMemory (h : m.memory.AgreeOutside D memory) (x y : Nat) {n : Nat}
    (hread : ∀ k, m.index.toNat ≤ k → k < m.index.toNat + n → ¬ D k) :
    SameOutside D (m.draw x y n) ((m.inMemory memory).draw x y n) := by
  have hrows : memory.range m.index.toNat n = m.memory.range m.index.toNat n := h.range hread
  have hrows' : (m.inMemory memory).memory.range (m.inMemory memory).index.toNat n =
      m.memory.range m.index.toNat n := hrows
  rw [draw, draw, hrows']
  cases m.memory.range m.index.toNat n with
  | error f => exact ⟨memory, rfl, h⟩
  | ok rows => exact ⟨memory, rfl, h⟩

/-- Loading registers reads one byte for each. -/
theorem loadRegisters_inMemory (h : m.memory.AgreeOutside D memory) {x : Nat}
    (hread : ∀ k, m.index.toNat ≤ k → k < m.index.toNat + (x + 1) → ¬ D k) :
    SameOutside D (m.loadRegisters x) ((m.inMemory memory).loadRegisters x) := by
  have hbytes : (m.inMemory memory).memory.range (m.inMemory memory).index.toNat (x + 1) =
      m.memory.range m.index.toNat (x + 1) := h.range hread
  rw [loadRegisters, loadRegisters, hbytes]
  cases m.memory.range m.index.toNat (x + 1) with
  | error f => exact ⟨memory, rfl, h⟩
  | ok bytes =>
    have hloaded : ∀ registers, SameOutside D
        (.done (({ m with registers } : Machine).afterTransfer x))
        (.done (({ m.inMemory memory with registers } : Machine).afterTransfer x)) :=
      fun registers => afterTransfer_sameOutside (m := { m with registers }) h x
    exact hloaded _

theorem storeDigits_inMemory (h : m.memory.AgreeOutside D memory) (x : Nat) :
    SameOutside D (m.storeDigits x) ((m.inMemory memory).storeDigits x) := by
  obtain ⟨hresult, hmemory⟩ := h.overwrite m.index.toNat (decimalDigits (m.reg x))
  have hblock : (m.inMemory memory).memory.overwrite (m.inMemory memory).index.toNat
      (decimalDigits ((m.inMemory memory).reg x)) =
      memory.overwrite m.index.toNat (decimalDigits (m.reg x)) := rfl
  rw [storeDigits, storeDigits, hblock, hresult]
  exact ⟨_, rfl, hmemory⟩

theorem storeRegisters_inMemory (h : m.memory.AgreeOutside D memory) (x : Nat) :
    SameOutside D (m.storeRegisters x) ((m.inMemory memory).storeRegisters x) := by
  obtain ⟨hresult, hmemory⟩ := h.overwrite m.index.toNat (m.registers.toList.take (x + 1))
  have hblock : (m.inMemory memory).memory.overwrite (m.inMemory memory).index.toNat
      ((m.inMemory memory).registers.toList.take (x + 1)) =
      memory.overwrite m.index.toNat (m.registers.toList.take (x + 1)) := rfl
  rw [storeRegisters, storeRegisters, hblock, hresult]
  split
  · exact ⟨_, rfl, hmemory⟩
  · exact afterTransfer_sameOutside (m := m.inMemory _) hmemory x

/-- **An instruction with another memory** does the same and answers the same, if it
finds there what it reads. -/
theorem execute_inMemory (h : m.memory.AgreeOutside D memory)
    (hread : ∀ k, i.ReadsByte m.index.toNat k → ¬ D k) (random : UInt8) :
    SameOutside D (m.execute random i) ((m.inMemory memory).execute random i) := by
  have hskip : ∀ c, SameOutside D (.done (m.skipIf c)) (.done ((m.inMemory memory).skipIf c)) :=
    fun c => .done (f := (·.skipIf c)) (fun memory => skipIf_inMemory m memory c) h
  cases i with
  | system op =>
    cases op with
    | clearScreen => exact ⟨memory, rfl, h⟩
    | ret =>
      have hstack : (m.inMemory memory).stack = m.stack := rfl
      rw [execute, execute, ret, ret, hstack]
      cases m.stack with
      | nil => exact ⟨memory, rfl, h⟩
      | cons a rest => exact ⟨memory, rfl, h⟩
  | call a =>
    have hstack : (m.inMemory memory).stack = m.stack := rfl
    rw [execute, execute, call, call, hstack]
    split
    · exact ⟨memory, rfl, h⟩
    · exact ⟨memory, rfl, h⟩
  | skipEqByte | skipNeByte | skipEq | skipNe => exact hskip _
  | alu op x y => exact .done (f := (·.alu op x.toNat y.toNat)) (alu_inMemory m · op _ _) h
  | draw x y n => exact draw_inMemory h _ _ fun k hlo hhi => hread k ⟨hlo, hhi⟩
  | key op x => cases op <;> exact hskip _
  | misc op x =>
    cases op with
    | digits => exact storeDigits_inMemory h _
    | store => exact storeRegisters_inMemory h _
    | load => exact loadRegisters_inMemory h fun k hlo hhi => hread k ⟨hlo, Nat.le_of_lt_succ hhi⟩
    | readDelay | waitKey | setDelay | setSound | addIndex | glyph => exact ⟨memory, rfl, h⟩
  | jump | setByte | addByte | setIndex | jumpOffset | random => exact ⟨memory, rfl, h⟩

/-! ## Cycles -/

theorem fetch_inMemory (h : m.memory.AgreeOutside D memory) (hlo : ¬ D m.pc.toNat)
    (hhi : ¬ D (m.pc.toNat + 1)) : (m.inMemory memory).fetch = m.fetch := by
  have hword : (m.inMemory memory).word = m.word :=
    congrArg₂ Word.ofBytes (h.byteAt hlo) (h.byteAt hhi)
  have hsize : (m.inMemory memory).memory.size = m.memory.size := h.size
  have hpc : (m.inMemory memory).pc = m.pc := rfl
  rcases Nat.lt_or_ge (m.pc.toNat + 1) m.memory.size with hlt | hle
  · rw [fetch_of_lt hlt, fetch_of_lt (by rw [hpc, hsize]; exact hlt), hword]
  · rw [fetch_of_le hle, fetch_of_le (by rw [hpc, hsize]; exact hle), hpc, hsize]

theorem runWord_inMemory (h : m.memory.AgreeOutside D memory) {w : UInt16}
    (hread : ∀ k, Word.ReadsByte w m.index.toNat k → ¬ D k) (random : UInt8) :
    SameOutside D (m.runWord random w) ((m.inMemory memory).runWord random w) := by
  cases hw : Instruction.decode? w with
  | none =>
    simp only [runWord, hw]
    exact ⟨memory, rfl, h⟩
  | some i =>
    have hstep : m.stepPast.memory.AgreeOutside D memory := h
    obtain ⟨memory', heq, h'⟩ := execute_inMemory (i := i) hstep
      (fun k hk => hread k (Instruction.readsByte_of_decode? hw hk)) random
    have hexec : (m.inMemory memory).stepPast.execute random i =
        (m.stepPast.execute random i).mapState (·.inMemory memory') := heq
    simp only [runWord, hw, hexec]
    have hresult : ((m.stepPast.execute random i).mapState (·.inMemory memory')).result =
        (m.stepPast.execute random i).result := rfl
    rw [hresult]
    cases (m.stepPast.execute random i).result with
    | ok u => exact ⟨memory', rfl, h'⟩
    | error f => exact ⟨memory', rfl, h'⟩

/-- **A cycle with another memory** does the same and answers the same, if it finds the same word at
the program counter, and the same bytes where this word reads. -/
theorem cycle_inMemory (h : m.memory.AgreeOutside D memory) (hlo : ¬ D m.pc.toNat)
    (hhi : ¬ D (m.pc.toNat + 1)) (hread : ∀ k, Word.ReadsByte m.word m.index.toNat k → ¬ D k)
    (random : UInt8) : SameOutside D (m.cycle random) ((m.inMemory memory).cycle random) := by
  have hflags : (m.inMemory memory).flags = m.flags := rfl
  rw [cycle, cycle, hflags, fetch_inMemory h hlo hhi]
  split
  · exact ⟨memory, rfl, h⟩
  · cases hfetch : m.fetch with
    | error f => exact ⟨memory, rfl, h⟩
    | ok w =>
      obtain ⟨-, rfl⟩ := lt_and_eq_of_fetch hfetch
      obtain ⟨memory', heq, h'⟩ := runWord_inMemory h hread random
      exact ⟨memory', congrArg (·.after [.fetched m.cycles m.pc m.word]) heq, h'⟩

/-- **A cycle reads the word at the program counter and the bytes that this word reads, and nothing
else of memory.**  Two machines have memories of one size and differ at most in other bytes.  A
cycle answers and reports the same on both, and afterwards they differ at most in bytes in
which they did before. -/
theorem cycle_reads_window (m : Machine) (random : UInt8) {memory : Memory}
    (hsize : memory.size = m.memory.size)
    (hsame : ∀ k, k = m.pc.toNat ∨ k = m.pc.toNat + 1 ∨
      Word.ReadsByte m.word m.index.toNat k → memory.bytes[k]? = m.memory.bytes[k]?) :
    let o := m.cycle random
    let o' := ({ m with memory } : Machine).cycle random
    o'.result = o.result ∧ o'.events = o.events ∧
      ∃ memory' : Memory, o'.state = { o.state with memory := memory' } ∧
        memory'.size = o.state.memory.size ∧
        ∀ k : Nat, memory'.bytes[k]? ≠ o.state.memory.bytes[k]? →
          memory.bytes[k]? ≠ m.memory.bytes[k]? := by
  intro o o'
  let D : Nat → Prop := fun k => memory.bytes[k]? ≠ m.memory.bytes[k]?
  have h : m.memory.AgreeOutside D memory := ⟨hsize, fun k hk => not_not.1 hk⟩
  have hlo : ¬ D m.pc.toNat := not_not.2 (hsame _ (.inl rfl))
  have hhi : ¬ D (m.pc.toNat + 1) := not_not.2 (hsame _ (.inr (.inl rfl)))
  have hread : ∀ k, Word.ReadsByte m.word m.index.toNat k → ¬ D k :=
    fun k hk => not_not.2 (hsame k (.inr (.inr hk)))
  obtain ⟨memory', heq, h'⟩ := cycle_inMemory h hlo hhi hread random
  have ho : o' = o.mapState (·.inMemory memory') := heq
  rw [ho]
  exact ⟨rfl, rfl, memory', rfl, h'.size, fun k => Not.imp_symm (h'.byte k)⟩

set_option maxRecDepth 100000 in
/-- Two registers are loaded from 300 and 301; what stands at 302 is not looked at. -/
theorem cycle_reads_window_up_to_edge :
    let m : Machine :=
      { memory := ⟨Memory.blit Memory.initial.bytes 0x200 [0xf1, 0x65]⟩, index := 0x300 }
    let memory : Memory := ⟨Memory.blit m.memory.bytes 0x302 [7]⟩
    let o := m.cycle 0
    let o' := ({ m with memory } : Machine).cycle 0
    memory.size = m.memory.size ∧
      (∀ k, k = m.pc.toNat ∨ k = m.pc.toNat + 1 ∨ Word.ReadsByte m.word m.index.toNat k →
        memory.bytes[k]? = m.memory.bytes[k]?) ∧
      o.result = .ok () ∧ o'.result = .ok () ∧ o'.state.registers = o.state.registers ∧
      ∀ k : Nat, k ≠ 0x302 → o'.state.memory.bytes[k]? = o.state.memory.bytes[k]? := by
  intro m memory o o'
  have h : m.cycleFault = none ∧ m.word = 0xf165 := by decide +kernel
  obtain ⟨hfault, hword⟩ := h
  have hbyte : ∀ k : Nat, k ≠ 0x302 → memory.bytes[k]? = m.memory.bytes[k]? := by
    intro k hk
    rw [Memory.getElem?_blit, if_neg]
    simp only [List.length_cons, List.length_nil]
    omega
  have hsize : memory.size = m.memory.size := Memory.size_blit _ _ _
  have hpc : m.pc = 0x200 := rfl
  have hindex : m.index = 0x300 := rfl
  clear_value memory m
  have hsame : ∀ k, k = m.pc.toNat ∨ k = m.pc.toNat + 1 ∨
      Word.ReadsByte m.word m.index.toNat k → memory.bytes[k]? = m.memory.bytes[k]? := by
    rw [hword, hpc, hindex]
    rintro k (rfl | rfl | ⟨hk, -⟩ | ⟨-, -, -, hk⟩)
    · exact hbyte _ (by decide)
    · exact hbyte _ (by decide)
    · exact absurd hk (by decide)
    · have hx : (Word.x 0xf165).toNat = 1 := rfl
      have h300 : (0x300 : UInt16).toNat = 0x300 := rfl
      exact hbyte k (by omega)
  obtain ⟨hresult, -, memory', hstate, -, hdiff⟩ := cycle_reads_window m 0 hsize hsame
  have hok : o.result = .ok () := result_cycle_eq_ok_iff.2 hfault
  have hend : o'.state = { o.state with memory := memory' } := hstate
  refine ⟨hsize, hsame, hok, hresult.trans hok, by rw [hend], fun k hk => ?_⟩
  rw [hend]
  exact not_not.1 fun hne => hdiff k hne (hbyte k hk)

end Machine

end Chip8
