import Chip8.Proofs.Machine.Footprint

/-!
# Registers in memory and back

One instruction stores a block of registers in memory, another one loads it from there.  What was
stored is loaded again as long as nothing writes to the block in between, whatever else happens: the
index has to point at the block again, and all the registers may hold something else by then.  A
third instruction stores the decimal digits of one register, which come back as the first three
registers.

## What is here

* `Word.misc` — the words of the three instructions, `Fx55`, `Fx65` and `Fx33`.
* `Word.LeadsTo` — what a word makes of a machine, as an instruction and as a cycle.
* `Machine.indexAfter` — where a transfer leaves the index.
* `Machine.Stored`, `Machine.Loaded` — a machine after a transfer, in each direction;
  `leadsTo_store` and `leadsTo_load` say that the words do this, where there is room for the block.
* `Machine.decimalDigits_eq` — the digits and what they are worth; `leadsTo_digits` stores them.
* `Machine.transfer_round_trip` — what is stored is loaded again.
-/

set_option autoImplicit false

namespace Chip8

/-! ## Words -/

/-- The word `Fxbb`, with `b` as its last byte. -/
def Word.misc (b : Nat) (x : Fin 16) : UInt16 := .ofNat (0xf000 + 0x100 * x + b)

/-- The word leads from one machine to another: its instruction makes `n` of `m`; and so does a
cycle in which the word is fetched, which besides moves the program counter on and counts itself. -/
def Word.LeadsTo (w : UInt16) (m n : Machine) : Prop :=
  ∃ i, Instruction.decode? w = some i ∧ ∀ random, m.execute random i = .done n ∧
    (m.flags.isPaused = false → m.fetch = .ok w →
      m.cycle random = ⟨{ n with pc := m.pc + 2, cycles := m.cycles + 1 }, .ok (),
        [.fetched m.cycles m.pc w]⟩)

/-- What the word of a miscellaneous operation stands for. -/
theorem Instruction.decode?_misc (op : MiscOp) (x : Fin 16) :
    decode? (Word.misc op.code x) = some (.misc op (.ofNat x)) := by
  have hfits : (misc op (.ofNat x)).Fits := by
    show (UInt64.ofNat x).toNat < 0x10
    rw [toNat_register]
    exact x.isLt
  have hword : (misc op (.ofNat x)).encode = Word.misc op.code x := by
    simp only [encode, wordOfByte, toNat_register, Word.misc]
  rw [← hword]
  exact decode?_encode hfits

namespace Machine

variable {m n : Machine} {x : Fin 16}

/-- An instruction that does the same wherever the program counter points is what its word leads
to. -/
theorem leadsTo_of_execute {w : UInt16} {i : Instruction} (hw : Instruction.decode? w = some i)
    (hpc : n.pc = m.pc) (hcycles : n.cycles = m.cycles)
    (h : ∀ random a,
      ({ m with pc := a } : Machine).execute random i = .done { n with pc := a }) :
    Word.LeadsTo w m n := by
  refine ⟨i, hw, fun random => ⟨(h random m.pc).trans (by rw [← hpc]), fun hp hfetch => ?_⟩⟩
  have hstep : m.stepPast.execute random i = .done { n with pc := m.pc + 2 } := h random (m.pc + 2)
  rw [cycle, hp, hfetch, ← hcycles]
  simp only [runWord, hw, hstep]
  rfl

theorem leadsTo_misc (op : MiscOp) (hpc : n.pc = m.pc) (hcycles : n.cycles = m.cycles)
    (h : ∀ a, ({ m with pc := a } : Machine).misc op (.ofNat x) = .done { n with pc := a }) :
    Word.LeadsTo (Word.misc op.code x) m n :=
  leadsTo_of_execute (Instruction.decode?_misc op x) hpc hcycles fun _ => h

/-! ## The index -/

/-- The index after a transfer of the registers up to `x`. -/
def indexAfter (m : Machine) (x : Nat) : UInt16 :=
  if m.flags.dialect.keepsIndex then m.index else (m.index + .ofNat (x + 1)) % 0x1000

theorem afterTransfer_eq (m : Machine) (x : Nat) :
    m.afterTransfer x = { m with index := m.indexAfter x } := by
  rw [afterTransfer, indexAfter]
  split <;> rfl

/-- Unless the dialect keeps the index it points behind the block, and to the start of memory where
the block ends with memory. -/
theorem toNat_indexAfter (m : Machine) (x : Fin 16) :
    (m.indexAfter x).toNat =
      if m.flags.dialect.keepsIndex then m.index.toNat else (m.index.toNat + x + 1) % 0x1000 := by
  rw [indexAfter]
  split
  · rfl
  · have hx := x.isLt
    have hlen : (UInt16.ofNat (x + 1)).toNat = x + 1 :=
      UInt16.toNat_ofNat_of_lt' (Nat.lt_trans (Nat.succ_lt_succ hx) (by decide))
    rw [UInt16.toNat_mod, UInt16.toNat_add, hlen, show (0x1000 : UInt16).toNat = 0x1000 from rfl]
    omega

/-! ## Storing -/

/-- The registers of `m` up to `x` were stored from the index on.  Apart from the block, and from
the index if the dialect moves it, `n` is `m`. -/
structure Stored (x : Fin 16) (m n : Machine) : Prop where
  /-- Nothing but memory and the index has changed. -/
  frame : n = { m with memory := n.memory, index := n.index }
  /-- The number of bytes. -/
  size : n.memory.size = m.memory.size
  /-- The block holds the registers. -/
  block : ∀ j ≤ x.val, n.memory.read (m.index.toNat + j) = .ok (m.reg j)
  /-- The bytes before and behind the block. -/
  rest : ∀ k, k < m.index.toNat ∨ m.index.toNat + x < k → n.memory.read k = m.memory.read k
  /-- The index. -/
  index : n.index.toNat =
    if m.flags.dialect.keepsIndex then m.index.toNat else (m.index.toNat + x + 1) % 0x1000

theorem getElem?_take_registers (m : Machine) {j x : Nat} (hjx : j ≤ x) (hj : j < 16) :
    (m.registers.toList.take (x + 1))[j]? = some (m.reg j) := by
  rw [List.getElem?_take_of_lt (by omega), reg, Vector.getElem?_toList,
    Vector.getElem?_eq_getElem hj, Option.getD_some]

theorem storeRegisters_eq {x : Nat} (hx : x < 16)
    (hroom : m.index.toNat + (x + 1) ≤ m.memory.size) :
    m.storeRegisters x =
      let bytes := Memory.blit m.memory.bytes m.index.toNat (m.registers.toList.take (x + 1))
      .done { m with memory := ⟨bytes⟩, index := m.indexAfter x } := by
  rw [storeRegisters_of_le hx hroom]
  exact congrArg Outcome.done (afterTransfer_eq _ x)

/-- `Fx55` stores a block of registers. -/
theorem leadsTo_store (hroom : m.index.toNat + (x + 1) ≤ m.memory.size) :
    ∃ n, Word.LeadsTo (Word.misc 0x55 x) m n ∧ Stored x m n := by
  have hx := x.isLt
  let block := m.registers.toList.take (x + 1)
  have hlen : block.length = x + 1 := length_take_registers m hx
  let memory : Memory := ⟨Memory.blit m.memory.bytes m.index.toNat block⟩
  refine ⟨{ m with memory, index := m.indexAfter x }, ?_, rfl, Memory.size_blit _ _ _, ?_, ?_,
    toNat_indexAfter m x⟩
  · refine leadsTo_misc .store rfl rfl fun a => ?_
    show ({ m with pc := a } : Machine).storeRegisters (UInt64.ofNat x).toNat = _
    rw [Instruction.toNat_register]
    exact storeRegisters_eq (m := { m with pc := a }) hx hroom
  · intro j hj
    have hin : m.index.toNat + j < m.memory.bytes.size := by
      rw [Memory.size] at hroom
      omega
    rw [Memory.read_eq_ok_iff, Memory.getElem?_blit, hlen, if_pos (by omega),
      Nat.add_sub_cancel_left]
    exact getElem?_take_registers m hj (by omega)
  · intro k hk
    rw [Memory.read, Memory.getElem?_blit, hlen, if_neg (by omega), Memory.read]

/-! ## Loading -/

/-- The registers up to `x` were loaded from the index on.  Apart from these, and from the index if
the dialect moves it, `n` is `m`. -/
structure Loaded (x : Fin 16) (m n : Machine) : Prop where
  /-- Nothing but the registers and the index has changed. -/
  frame : n = { m with registers := n.registers, index := n.index }
  /-- The registers hold the block. -/
  block : ∀ j ≤ x.val, m.memory.read (m.index.toNat + j) = .ok (n.reg j)
  /-- The registers behind it. -/
  rest : ∀ j, x.val < j → n.reg j = m.reg j
  /-- The index. -/
  index : n.index.toNat =
    if m.flags.dialect.keepsIndex then m.index.toNat else (m.index.toNat + x + 1) % 0x1000

/-- Loading gives the first registers the bytes of the block, wherever the program counter points.
-/
theorem exists_loadRegisters {x : Nat} (hroom : m.index.toNat + (x + 1) ≤ m.memory.size) :
    ∃ registers : Vector UInt8 16,
      (∀ a, ({ m with pc := a } : Machine).loadRegisters x =
        .done { m with pc := a, registers, index := m.indexAfter x }) ∧
      ∀ j < 16, ({ m with registers, index := m.indexAfter x } : Machine).reg j =
        (m.memory.block m.index.toNat (x + 1))[j]?.getD (m.reg j) := by
  have hmove : ∀ a registers, ({ m with pc := a, registers } : Machine).afterTransfer x =
      { m with pc := a, registers, index := m.indexAfter x } := fun _ _ => afterTransfer_eq _ x
  let block := m.memory.block m.index.toNat (x + 1)
  refine ⟨.ofFn fun k : Fin 16 => block[k.val]?.getD m.registers[k], fun a => ?_, fun j hj => ?_⟩
  · rw [loadRegisters_of_le (m := { m with pc := a }) hroom]
    exact congrArg Outcome.done (hmove a _)
  · exact reg_loaded m block hj

/-- `Fx65` loads a block of registers. -/
theorem leadsTo_load (hroom : m.index.toNat + (x + 1) ≤ m.memory.size) :
    ∃ n, Word.LeadsTo (Word.misc 0x65 x) m n ∧ Loaded x m n := by
  have hx := x.isLt
  obtain ⟨registers, hload, hreg⟩ := exists_loadRegisters hroom
  refine ⟨{ m with registers, index := m.indexAfter x }, ?_, rfl, ?_, ?_, toNat_indexAfter m x⟩
  · refine leadsTo_misc .load rfl rfl fun a => ?_
    show ({ m with pc := a } : Machine).loadRegisters (UInt64.ofNat x).toNat = _
    rw [Instruction.toNat_register]
    exact hload a
  · intro j hj
    rw [hreg j (by omega), Memory.getElem?_block, if_pos (by omega), Option.getD_some]
    exact Memory.read_of_lt (by omega)
  · intro j hj
    rcases Nat.lt_or_ge j 16 with hlt | hge
    · rw [hreg j hlt, Memory.getElem?_block, if_neg (by omega), Option.getD_none]
    · rw [reg_of_le hge, reg_of_le hge]

/-- **What stands in the block is loaded**, each byte into its register. -/
theorem Loaded.reg_eq {m n : Machine} {x : Fin 16} (h : Loaded x m n) {j : Nat} (hj : j ≤ x)
    {b : UInt8} (hb : m.memory.read (m.index.toNat + j) = .ok b) : n.reg j = b :=
  Except.ok.inj ((h.block j hj).symm.trans hb)

/-! ## Digits -/

/-- **The digits of a byte** are three, and the byte is what they are worth. -/
theorem decimalDigits_eq (b : UInt8) :
    ∃ h t o : UInt8, decimalDigits b = [h, t, o] ∧ h < 10 ∧ t < 10 ∧ o < 10 ∧
      100 * h.toNat + 10 * t.toNat + o.toNat = b.toNat := by
  have hb := b.toNat_lt
  have h10 : (10 : UInt8).toNat = 10 := rfl
  have h100 : (100 : UInt8).toNat = 100 := rfl
  refine ⟨b / 100, b / 10 % 10, b % 10, rfl, ?_, ?_, ?_, ?_⟩
  all_goals simp only [UInt8.lt_iff_toNat_lt, UInt8.toNat_div, UInt8.toNat_mod, h10, h100]
  all_goals omega

/-- `Fx33` stores the digits of a register. -/
theorem leadsTo_digits (hroom : m.index.toNat + 3 ≤ m.memory.size) :
    ∃ memory : Memory, Word.LeadsTo (Word.misc 0x33 x) m { m with memory } ∧
      memory.size = m.memory.size ∧
      ∀ j (hj : j < 3), memory.read (m.index.toNat + j) = .ok (decimalDigits (m.reg x))[j] := by
  have hlen : (decimalDigits (m.reg x)).length = 3 := rfl
  refine ⟨⟨Memory.blit m.memory.bytes m.index.toNat (decimalDigits (m.reg x))⟩, ?_,
    Memory.size_blit _ _ _, fun j hj => ?_⟩
  · refine leadsTo_misc .digits rfl rfl fun a => ?_
    show ({ m with pc := a } : Machine).storeDigits (UInt64.ofNat x).toNat = _
    rw [Instruction.toNat_register]
    exact storeDigits_of_le (m := { m with pc := a }) hroom
  · have hin : m.index.toNat + j < m.memory.bytes.size := by
      rw [Memory.size] at hroom
      omega
    rw [Memory.read_eq_ok_iff, Memory.getElem?_blit, hlen, if_pos (by omega),
      Nat.add_sub_cancel_left]
    exact List.getElem?_eq_getElem hj

/-! ## There and back -/

/-- What was stored in a block stands there as long as nothing writes to it. -/
theorem Stored.read_of_throughout {m stored : Machine} {x : Fin 16} (h : Stored x m stored)
    (hsize : m.memory.size = Memory.capacity) {c : Console} {ops : List Operation}
    (hc : c.machine.memory = stored.memory)
    (hops : c.Throughout (fun c op => ∀ j ≤ x.val, ¬ c.WritesByte (m.index.toNat + j) op) ops)
    {j : Nat} (hj : j ≤ x) :
    (c.performAll ops).machine.memory.read (m.index.toNat + j) = .ok (m.reg j) := by
  have hsize' : c.machine.memory.size = Memory.capacity := by rw [hc, h.size, hsize]
  -- what is written lies outside of the block
  have hout : c.Throughout (fun c op => ∀ k, c.WritesByte k op →
      ¬ (m.index.toNat ≤ k ∧ k ≤ m.index.toNat + x)) ops := by
    refine hops.imp fun c op hop k hk hin => hop (k - m.index.toNat) (by omega) ?_
    rwa [Nat.add_sub_of_le hin.1]
  have hsame := Console.agreeOutside_performAll hsize' hout
  have hbyte := hsame.byte (m.index.toNat + j) (by omega)
  rw [Memory.read_eq_ok_iff, hbyte, hc, ← Memory.read_eq_ok_iff]
  exact h.block j hj

/-- **What is stored is loaded again.**  Where there is room for the block, `Fx55` stores the
registers up to `x` and changes nothing else, apart from the index as the dialect has it.
Afterwards the machine may be changed in every way except in memory, and any operations may be
performed none of which writes to the block; then it may be changed again, and the index is put back
to where the block begins.  Now `Fx65` loads what was stored, and changes nothing else, apart from
the index in the same way.  Where there is room for three bytes, `Fx33` and then `F265` leave the
three digits of the register `x` in the first three registers. -/
theorem transfer_round_trip (hsize : m.memory.size = 0x1000) (x : Fin 16) :
    (m.index.toNat + x + 1 ≤ 0x1000 →
      ∃ stored, Word.LeadsTo (Word.misc 0x55 x) m stored ∧ Stored x m stored ∧
        ∀ (c : Console) (ops : List Operation) (n : Machine),
          c.machine.memory = stored.memory →
          c.Throughout (fun c op => ∀ j ≤ x.val, ¬ c.WritesByte (m.index.toNat + j) op) ops →
          n.memory = (c.performAll ops).machine.memory → n.index = m.index →
          ∃ loaded, Word.LeadsTo (Word.misc 0x65 x) n loaded ∧ Loaded x n loaded ∧
            ∀ j ≤ x.val, loaded.reg j = m.reg j) ∧
    (m.index.toNat + 3 ≤ 0x1000 →
      ∃ memory : Memory, Word.LeadsTo (Word.misc 0x33 x) m { m with memory } ∧
        ∀ n : Machine, n.memory = memory → n.index = m.index →
          ∃ loaded, Word.LeadsTo (Word.misc 0x65 2) n loaded ∧ Loaded 2 n loaded ∧
            loaded.reg 0 < 10 ∧ loaded.reg 1 < 10 ∧ loaded.reg 2 < 10 ∧
            100 * (loaded.reg 0).toNat + 10 * (loaded.reg 1).toNat + (loaded.reg 2).toNat =
              (m.reg x).toNat) := by
  refine ⟨fun hroom => ?_, fun hroom => ?_⟩
  · obtain ⟨stored, hleads, hstored⟩ := leadsTo_store (m := m) (x := x) (by omega)
    refine ⟨stored, hleads, hstored, fun c ops n hc hops hn hindex => ?_⟩
    have hread : ∀ j ≤ x.val, n.memory.read (n.index.toNat + j) = .ok (m.reg j) := fun j hj => by
      rw [hn, hindex]
      exact hstored.read_of_throughout hsize hc hops hj
    have hsize' : n.index.toNat + (x + 1) ≤ n.memory.size := by
      have hlast := Memory.lt_size_of_read (hread x (Nat.le_refl _))
      omega
    obtain ⟨loaded, hleads', hloaded⟩ := leadsTo_load hsize'
    exact ⟨loaded, hleads', hloaded, fun j hj => hloaded.reg_eq hj (hread j hj)⟩
  · obtain ⟨memory, hleads, hsize', hread⟩ := leadsTo_digits (m := m) (x := x) (by omega)
    refine ⟨memory, hleads, fun n hn hindex => ?_⟩
    obtain ⟨loaded, hleads', hloaded⟩ :=
      leadsTo_load (m := n) (x := 2) (by rw [hn, hindex]; omega)
    rw [← hn, ← hindex] at hread
    refine ⟨loaded, hleads', hloaded, ?_⟩
    obtain ⟨h, t, o, hdigits, hh, ht, ho, hsum⟩ := decimalDigits_eq (m.reg x)
    simp only [hdigits] at hread
    rw [hloaded.reg_eq (by decide) (hread 0 (by decide)),
      hloaded.reg_eq (by decide) (hread 1 (by decide)),
      hloaded.reg_eq (by decide) (hread 2 (by decide))]
    exact ⟨hh, ht, ho, hsum⟩

set_option maxRecDepth 100000 in
/-- A program stores three registers in the last three bytes of memory, which moves the index to the
start of memory, overwrites one of them, points the index back and loads them again.  In the same
three bytes the digits of the last one can be stored. -/
theorem transfer_round_trip_at_end :
    let program : List UInt8 := [0xf2, 0x55, 0x60, 0x63, 0xaf, 0xfd, 0xf2, 0x65]
    let start : Machine :=
      { memory := ⟨Memory.blit Memory.initial.bytes 0x200 program⟩, index := 0xffd }
    let m := ((start.setReg 0 7).setReg 1 8).setReg 2 254
    let c : Console := ⟨(m.cycle 0).state, ⟨fun _ => 0, 0⟩⟩
    let n := (c.performAll [.run 2]).machine
    m.memory.size = 0x1000 ∧ m.index.toNat + 3 ≤ 0x1000 ∧ c.machine.index = 0 ∧
      c.Throughout (fun c op => ∀ j ≤ 2, ¬ c.WritesByte (m.index.toNat + j) op) [.run 2] ∧
      n.index = m.index ∧ n.reg 0 = 0x63 ∧
      (∃ loaded, Word.LeadsTo (Word.misc 0x65 2) n loaded ∧ loaded.reg 0 = 7 ∧ loaded.reg 1 = 8 ∧
        loaded.reg 2 = 254) ∧
      ∃ (memory : Memory) (loaded : Machine),
        Word.LeadsTo (Word.misc 0x33 2) m { m with memory } ∧
        Word.LeadsTo (Word.misc 0x65 2) { m with memory } loaded ∧
        100 * (loaded.reg 0).toNat + 10 * (loaded.reg 1).toNat + (loaded.reg 2).toNat = 254 := by
  intro program start m c n
  have h : m.flags.isPaused = false ∧ m.memory.size = 0x1000 ∧ m.pc = 0x200 ∧ m.index = 0xffd ∧
      m.word = Word.misc 0x55 2 ∧ (m.reg 0 = 7 ∧ m.reg 1 = 8 ∧ m.reg 2 = 254) ∧
      c.machine.index = 0 ∧
      c.Throughout (fun c op => ∀ j ≤ 2, ¬ c.WritesByte (m.index.toNat + j) op) [.run 2] ∧
      n.index = m.index ∧ n.reg 0 = 0x63 := by
    decide +kernel
  have hc : c.machine = (m.cycle 0).state := rfl
  have hn : n = (c.performAll [.run 2]).machine := rfl
  clear_value n c m
  obtain ⟨hp, hsize, hpc, hindex, hword, ⟨h0, h1, h2⟩, hmoved, hops, hback, hlost⟩ := h
  have hroom : m.index.toNat + 3 ≤ 0x1000 := by
    rw [hindex]
    decide
  have hfetch : m.fetch = .ok (Word.misc 0x55 2) := by
    rw [← hword]
    refine fetch_of_lt ?_
    rw [hsize, hpc]
    decide
  obtain ⟨hblock, hdigits⟩ := transfer_round_trip hsize 2
  obtain ⟨stored, ⟨i, -, hstore⟩, -, hload⟩ := hblock hroom
  have hmemory : c.machine.memory = stored.memory := by
    rw [hc, (hstore 0).2 hp hfetch]
  obtain ⟨loaded, hleads, -, hregs⟩ := hload c _ n hmemory hops (congrArg _ hn) hback
  obtain ⟨memory, hwrite, hread⟩ := hdigits hroom
  obtain ⟨digits, hleads', -, -, -, -, hsum⟩ := hread { m with memory } rfl rfl
  refine ⟨hsize, hroom, hmoved, hops, hback, hlost, ⟨loaded, hleads, ?_, ?_, ?_⟩, memory, digits,
    hwrite, hleads', ?_⟩
  · rw [hregs 0 (by decide), h0]
  · rw [hregs 1 (by decide), h1]
  · rw [hregs 2 (by decide), h2]
  · rw [hsum, show (2 : Fin 16).val = 2 from rfl, h2]
    rfl

end Machine

end Chip8
