import Mathlib.Logic.Basic
import Chip8.Proofs.Machine.Frame

/-!
# What a word may change

Every word has a write set: the parts of a machine that a cycle with this word may change.  It is
read off the digits of the word, and of the machine it takes the index, where the block of memory
begins, and the dialect, in which the flag register and the index may be left alone.  The program
counter and the number of cycles are in every write set and are not listed.

## What is here

* `Word.WritesByte`, `Word.WritesScreen` and so on — the write set, one part after another.
* `Machine.Framed` — two machines that differ at most in the write set of a word, with one rule for
  each way of changing a machine.
* `Machine.framed_execute` — an instruction stays within the write set of its word, family by
  family; and `Machine.framed_cycle`, so does a cycle.
* `Machine.cycle_write_set` — what a cycle has changed is in the write set of the
  word at the program counter.
-/

set_option autoImplicit false

namespace Chip8

/-! ## Write sets -/

namespace Word

/-- `Fx33` changes three bytes from the index `a` on, `Fx55` one for each
register that it stores. -/
def WritesByte (w : UInt16) (a k : Nat) : Prop :=
  kind w = 0xf ∧
    (byte w = 0x33 ∧ a ≤ k ∧ k < a + 3 ∨ byte w = 0x55 ∧ a ≤ k ∧ k ≤ a + (x w).toNat)

/-- `00E0` and `Dxyn` change the screen. -/
def WritesScreen (w : UInt16) : Prop := w = 0x00e0 ∨ kind w = 0xd

/-- `Fx15` changes the delay timer. -/
def WritesDelay (w : UInt16) : Prop := kind w = 0xf ∧ byte w = 0x15

/-- `Fx18` changes the sound timer. -/
def WritesSound (w : UInt16) : Prop := kind w = 0xf ∧ byte w = 0x18

/-- `2nnn` and `00EE` change the stack. -/
def WritesStack (w : UInt16) : Prop := kind w = 0x2 ∨ w = 0x00ee

/-- `Annn`, `Fx1E` and `Fx29` change the index; so do `Fx55` and `Fx65`, unless the dialect keeps
it. -/
def WritesIndex (w : UInt16) (d : Dialect) : Prop :=
  kind w = 0xa ∨
    kind w = 0xf ∧ (byte w = 0x1e ∨ byte w = 0x29 ∨
      (byte w = 0x55 ∨ byte w = 0x65) ∧ d.keepsIndex = false)

/-- `Fx0A` begins a key wait. -/
def WritesKeyWait (w : UInt16) : Prop := kind w = 0xf ∧ byte w = 0x0a

/-- The words that change the register they name by their second digit: `6xbb`, `7xbb`, all of
`8xyn`, `Cxbb` and `Fx07`. -/
def WritesNamed (w : UInt16) : Prop :=
  kind w = 0x6 ∨ kind w = 0x7 ∨
    kind w = 0x8 ∧ low w ∈ [0x0, 0x1, 0x2, 0x3, 0x4, 0x5, 0x6, 0x7, 0xe] ∨
    kind w = 0xc ∨ kind w = 0xf ∧ byte w = 0x07

/-- The words that change the flag register, whatever register they name: `8xy4` to `8xy7`, `8xyE`
and `Dxyn`; and `8xy1` to `8xy3`, unless the dialect keeps the flag. -/
def WritesFlag (w : UInt16) (d : Dialect) : Prop :=
  kind w = 0x8 ∧ low w ∈ [0x4, 0x5, 0x6, 0x7, 0xe] ∨ kind w = 0xd ∨
    kind w = 0x8 ∧ low w ∈ [0x1, 0x2, 0x3] ∧ d.keepsFlag = false

/-- The registers that a word changes: the one it names, the flag register, or, for `Fx65`, all
up to the one it names. -/
def WritesRegister (w : UInt16) (d : Dialect) (k : Nat) : Prop :=
  k = (x w).toNat ∧ WritesNamed w ∨ k = 0xf ∧ WritesFlag w d ∨
    k ≤ (x w).toNat ∧ kind w = 0xf ∧ byte w = 0x65

end Word

namespace Machine

/-- The machine `n` has what `m` has in every part outside the write set of the word `w`, as index
and dialect of `m` settle it. -/
structure Framed (w : UInt16) (m n : Machine) : Prop where
  /-- No word changes a key. -/
  keys : n.keys = m.keys
  /-- No word changes the user's pause. -/
  pause : n.flags.pause = m.flags.pause
  /-- No word changes the dialect. -/
  dialect : n.flags.dialect = m.flags.dialect
  /-- No word changes the number of bytes. -/
  memory_size : n.memory.size = m.memory.size
  /-- The bytes outside the write set. -/
  byte : ∀ k, ¬ Word.WritesByte w m.index.toNat k → n.memory.bytes[k]? = m.memory.bytes[k]?
  /-- The screen, unless it is in the write set. -/
  screen : ¬ Word.WritesScreen w → n.screen = m.screen
  /-- The delay timer, unless it is in the write set. -/
  delay : ¬ Word.WritesDelay w → n.delay = m.delay
  /-- The sound timer, unless it is in the write set. -/
  sound : ¬ Word.WritesSound w → n.sound = m.sound
  /-- The stack, unless it is in the write set. -/
  stack : ¬ Word.WritesStack w → n.stack = m.stack
  /-- The index, unless it is in the write set. -/
  index : ¬ Word.WritesIndex w m.flags.dialect → n.index = m.index
  /-- The key wait, unless it is in the write set. -/
  keyWait : ¬ Word.WritesKeyWait w → n.flags.keyWait = m.flags.keyWait
  /-- The target of the key wait, unless it is in the write set. -/
  keyTarget : ¬ Word.WritesKeyWait w → n.keyTarget = m.keyTarget
  /-- The registers outside the write set. -/
  register : ∀ k, ¬ Word.WritesRegister w m.flags.dialect k → n.reg k = m.reg k

variable {m n : Machine} {w : UInt16}

theorem Framed.refl (w : UInt16) (m : Machine) : Framed w m m where
  keys := rfl
  pause := rfl
  dialect := rfl
  memory_size := rfl
  byte _ _ := rfl
  screen _ := rfl
  delay _ := rfl
  sound _ := rfl
  stack _ := rfl
  index _ := rfl
  keyWait _ := rfl
  keyTarget _ := rfl
  register _ _ := rfl

/-! ## One rule for each way of changing a machine -/

namespace Framed

variable (h : Framed w m n)

include h

theorem withPc (a : UInt16) : Framed w m { n with pc := a } := { h with }

theorem counted : Framed w m n.counted := { h with }

theorem skipIf (c : Bool) : Framed w m (n.skipIf c) := by
  cases c with
  | false => exact h
  | true => exact h.withPc _

theorem setReg {k : Nat} (hk : Word.WritesRegister w m.flags.dialect k) (b : UInt8) :
    Framed w m (n.setReg k b) := by
  refine { h with register := fun j hj => ?_ }
  have hne : j ≠ k := fun hjk => hj (hjk ▸ hk)
  rw [reg_setReg, if_neg fun hjk => hne hjk.1]
  exact h.register j hj

theorem setFlag (hw : Word.WritesFlag w m.flags.dialect) (on : Bool) :
    Framed w m (n.setFlag on) :=
  h.setReg (.inr (.inl ⟨rfl, hw⟩)) _

theorem withScreen (hw : Word.WritesScreen w) (s : Screen) : Framed w m { n with screen := s } :=
  { h with screen := fun hn => absurd hw hn }

theorem withIndex (hw : Word.WritesIndex w m.flags.dialect) (a : UInt16) :
    Framed w m { n with index := a } :=
  { h with index := fun hn => absurd hw hn }

/-- The two words that change the stack also go somewhere else. -/
theorem withStack (hw : Word.WritesStack w) (s : List UInt16) (a : UInt16) :
    Framed w m { n with stack := s, pc := a } :=
  { h with stack := fun hn => absurd hw hn }

/-- Writing bytes from the index of `m` on, if all of them are in the write set. -/
theorem withBlock {bs : List UInt8}
    (hw : ∀ k, m.index.toNat ≤ k → k < m.index.toNat + bs.length →
      Word.WritesByte w m.index.toNat k) :
    Framed w m { n with memory := ⟨Memory.blit n.memory.bytes m.index.toNat bs⟩ } := by
  refine { h with memory_size := ?_, byte := fun k hk => ?_ }
  · exact (Memory.size_blit _ _ _).trans h.memory_size
  · have hout : ¬ (m.index.toNat ≤ k ∧ k < m.index.toNat + bs.length ∧ k < n.memory.bytes.size) :=
      fun hin => hk (hw k hin.1 hin.2.1)
    rw [Memory.getElem?_blit, if_neg hout]
    exact h.byte k hk

theorem afterTransfer (hw : m.flags.dialect.keepsIndex = false → Word.WritesIndex w m.flags.dialect)
    (k : Nat) : Framed w m (n.afterTransfer k) := by
  rw [Machine.afterTransfer]
  split
  · exact h
  · rename_i hkeep
    rw [Bool.not_eq_true, h.dialect] at hkeep
    exact h.withIndex (hw hkeep) _

end Framed

/-! ## Instructions -/

/-- A bitwise operation changes its register, and the flag register unless the dialect keeps it. -/
theorem framed_setBitwise {k : Nat} (hk : Word.WritesRegister w m.flags.dialect k)
    (hflag : m.flags.dialect.keepsFlag = false → Word.WritesFlag w m.flags.dialect) (b : UInt8) :
    Framed w m (m.setBitwise k b) := by
  have hset : Framed w m (m.setReg k b) := (Framed.refl w m).setReg hk b
  rw [setBitwise]
  split
  · exact hset
  · rename_i hkeep
    exact hset.setFlag (hflag (Bool.not_eq_true _ ▸ hkeep)) false

theorem framed_alu {op : AluOp} (hk : Word.kind w = 0x8) (hop : op.code = Word.low w) (y : Nat) :
    Framed w m (m.alu op (Word.x w).toNat y) := by
  have hx : Word.WritesRegister w m.flags.dialect (Word.x w).toNat := by
    refine .inl ⟨rfl, .inr (.inr (.inl ⟨hk, ?_⟩))⟩
    rw [← hop]
    cases op <;> decide
  have hset : ∀ b, Framed w m (m.setReg (Word.x w).toNat b) := (Framed.refl w m).setReg hx
  cases op with
  | copy => exact hset _
  | or | and | xor =>
    refine framed_setBitwise hx (fun hkeep => .inr (.inr ⟨hk, ?_, hkeep⟩)) _
    rw [← hop]
    decide
  | add | sub | shiftRight | subFrom | shiftLeft =>
    refine (hset _).setFlag (.inl ⟨hk, ?_⟩) _
    rw [← hop]
    decide

theorem framed_draw (hk : Word.kind w = 0xd) (x y len : Nat) :
    Framed w m (m.draw x y len).state := by
  rw [draw]
  split
  · exact Framed.refl w m
  · exact ((Framed.refl w m).withScreen (.inr hk) _).setFlag (.inr (.inl hk)) _

theorem framed_storeDigits (hk : Word.kind w = 0xf) (hb : Word.byte w = 0x33) (x : Nat) :
    Framed w m (m.storeDigits x).state := by
  rcases Nat.lt_or_ge m.memory.size (m.index.toNat + 3) with hlt | hle
  · rw [storeDigits_of_lt hlt]
    exact Framed.refl w m
  · rw [storeDigits_of_le hle]
    exact (Framed.refl w m).withBlock fun k hlo hhi => ⟨hk, .inl ⟨hb, hlo, hhi⟩⟩

theorem framed_storeRegisters (hk : Word.kind w = 0xf) (hb : Word.byte w = 0x55) :
    Framed w m (m.storeRegisters (Word.x w).toNat).state := by
  have hx := Word.x_lt w
  rcases Nat.lt_or_ge m.memory.size (m.index.toNat + ((Word.x w).toNat + 1)) with hlt | hle
  · rw [storeRegisters_of_lt hx hlt]
    exact Framed.refl w m
  · rw [storeRegisters_of_le hx hle]
    refine Framed.afterTransfer (Framed.withBlock (Framed.refl w m) fun k hlo hhi => ?_)
      (fun hkeep => .inr ⟨hk, .inr (.inr ⟨.inl hb, hkeep⟩)⟩) _
    rw [length_take_registers m hx] at hhi
    exact ⟨hk, .inr ⟨hb, hlo, by omega⟩⟩

/-- There is no register beyond the last, and it counts as 0. -/
theorem reg_of_le {k : Nat} (hk : 16 ≤ k) : m.reg k = 0 := by
  rw [reg, Vector.getElem?_eq_none hk, Option.getD_none]

/-- After a list of bytes is loaded into the registers from the first on, a register holds its byte,
or what it held before. -/
theorem reg_loaded (m : Machine) (bytes : List UInt8) {k : Nat} (hk : k < 16) :
    ({ m with registers := .ofFn fun k : Fin 16 => bytes[k.val]?.getD m.registers[k] } :
      Machine).reg k = bytes[k]?.getD (m.reg k) := by
  have hreg : m.reg k = m.registers[k] := by
    rw [reg, Vector.getElem?_eq_getElem hk, Option.getD_some]
  rw [hreg, reg, Vector.getElem?_ofFn, dif_pos hk, Option.getD_some]
  rfl

theorem framed_loadRegisters (hk : Word.kind w = 0xf) (hb : Word.byte w = 0x65) :
    Framed w m (m.loadRegisters (Word.x w).toNat).state := by
  rcases Nat.lt_or_ge m.memory.size (m.index.toNat + ((Word.x w).toNat + 1)) with hlt | hle
  · rw [loadRegisters_of_lt hlt]
    exact Framed.refl w m
  · rw [loadRegisters_of_le hle]
    refine Framed.afterTransfer ?_ (fun hkeep => .inr ⟨hk, .inr (.inr ⟨.inr hb, hkeep⟩)⟩) _
    refine { Framed.refl w m with register := fun k hkw => ?_ }
    have hout : (Word.x w).toNat < k := Nat.lt_of_not_le fun hle => hkw (.inr (.inr ⟨hle, hk, hb⟩))
    rcases Nat.lt_or_ge k 16 with hlt | hge
    · have hnone : (m.memory.block m.index.toNat ((Word.x w).toNat + 1))[k]? = none :=
        List.getElem?_eq_none (by rw [Memory.length_block]; omega)
      rw [reg_loaded m _ hlt, hnone, Option.getD_none]
    · rw [reg_of_le hge, reg_of_le hge]

theorem framed_misc {op : MiscOp} (hk : Word.kind w = 0xf) (hop : op.code = Word.byte w) :
    Framed w m (m.misc op (Word.x w)).state := by
  have h := Framed.refl w m
  cases op with
  | readDelay => exact h.setReg (.inl ⟨rfl, .inr (.inr (.inr (.inr ⟨hk, hop.symm⟩)))⟩) _
  | waitKey =>
    have hw : Word.WritesKeyWait w := ⟨hk, hop.symm⟩
    exact { h with keyWait := fun hn => absurd hw hn, keyTarget := fun hn => absurd hw hn }
  | setDelay => exact { h with delay := fun hn => absurd ⟨hk, hop.symm⟩ hn }
  | setSound => exact { h with sound := fun hn => absurd ⟨hk, hop.symm⟩ hn }
  | addIndex => exact h.withIndex (.inr ⟨hk, .inl hop.symm⟩) _
  | glyph => exact h.withIndex (.inr ⟨hk, .inr (.inl hop.symm)⟩) _
  | digits => exact framed_storeDigits hk hop.symm _
  | store => exact framed_storeRegisters hk hop.symm
  | load => exact framed_loadRegisters hk hop.symm

/-- **An instruction changes nothing outside the write set of its word**, also where it fails. -/
theorem framed_execute {i : Instruction} (hw : Instruction.decode? w = some i) (m : Machine)
    (random : UInt8) : Framed w m (m.execute random i).state := by
  have h := Framed.refl w m
  have hnamed : Word.WritesNamed w → ∀ b, Framed w m (m.setReg (Word.x w).toNat b) :=
    fun hn => h.setReg (.inl ⟨rfl, hn⟩)
  rw [Instruction.decode?.eq_def] at hw
  split at hw
  · obtain ⟨op, hop, rfl⟩ := Option.map_eq_some_iff.1 hw
    have hcode := SystemOp.code_of_ofCode? hop
    cases op with
    | clearScreen => exact h.withScreen (.inl (UInt16.toNat_inj.1 hcode.symm)) _
    | ret =>
      rw [execute, ret]
      split
      · exact h
      · exact h.withStack (.inr (UInt16.toNat_inj.1 hcode.symm)) _ _
  · cases hw; exact h.withPc _
  · rename_i hk
    cases hw
    rw [execute, call]
    split
    · exact h
    · exact h.withStack (.inl hk) _ _
  · cases hw; exact h.skipIf _
  · cases hw; exact h.skipIf _
  · split at hw
    · cases hw; exact h.skipIf _
    · cases hw
  · rename_i hk; cases hw; exact hnamed (.inl hk) _
  · rename_i hk; cases hw; exact hnamed (.inr (.inl hk)) _
  · rename_i hk
    obtain ⟨op, hop, rfl⟩ := Option.map_eq_some_iff.1 hw
    exact framed_alu hk (AluOp.code_of_ofCode? hop) _
  · split at hw
    · cases hw; exact h.skipIf _
    · cases hw
  · rename_i hk; cases hw; exact h.withIndex (.inl hk) _
  · cases hw; exact h.withPc _
  · rename_i hk; cases hw; exact hnamed (.inr (.inr (.inr (.inl hk)))) _
  · rename_i hk; cases hw; exact framed_draw hk _ _ _
  · obtain ⟨op, hop, rfl⟩ := Option.map_eq_some_iff.1 hw
    cases op <;> exact h.skipIf _
  · rename_i hk
    obtain ⟨op, hop, rfl⟩ := Option.map_eq_some_iff.1 hw
    exact framed_misc hk (MiscOp.code_of_ofCode? hop)
  · cases hw

/-! ## Cycles -/

/-- A cycle changes nothing outside the write set of the word at the program counter. -/
theorem framed_cycle (m : Machine) (random : UInt8) :
    Framed m.word m (m.cycle random).state := by
  have h := Framed.refl m.word m
  rcases m.state_cycle_cases random with hs | hs | ⟨i, hi⟩
  · rw [hs]
    exact h
  · rw [hs]
    exact (h.withPc _).counted
  · obtain ⟨-, -, hw, -⟩ := executes_iff.1 hi
    rw [state_of_executes hi]
    -- the counter has moved on, which is outside of what the frame looks at
    have hexec : Framed m.word m.stepPast (m.stepPast.execute random i).state :=
      framed_execute hw m.stepPast random
    exact Framed.counted { hexec with }

/-- **The write set of every word.**  One cycle changes no key, neither the user's pause nor the
dialect, and not the number of bytes; a byte, the screen, a timer, the stack, the index, the key
wait and a register only where the digits of the word at the program counter say so. -/
theorem cycle_write_set (m : Machine) (random : UInt8) :
    let w := m.word
    let after := (m.cycle random).state
    (after.keys = m.keys ∧ after.flags.pause = m.flags.pause ∧
      after.flags.dialect = m.flags.dialect ∧ after.memory.size = m.memory.size) ∧
    (∀ k, after.memory.bytes[k]? ≠ m.memory.bytes[k]? → Word.WritesByte w m.index.toNat k) ∧
    (after.screen ≠ m.screen → Word.WritesScreen w) ∧
    (after.delay ≠ m.delay → Word.WritesDelay w) ∧
    (after.sound ≠ m.sound → Word.WritesSound w) ∧
    (after.stack ≠ m.stack → Word.WritesStack w) ∧
    (after.index ≠ m.index → Word.WritesIndex w m.flags.dialect) ∧
    (after.flags.keyWait ≠ m.flags.keyWait ∨ after.keyTarget ≠ m.keyTarget →
      Word.WritesKeyWait w) ∧
    ∀ k, after.reg k ≠ m.reg k → Word.WritesRegister w m.flags.dialect k := by
  intro w after
  have h : Framed w m after := m.framed_cycle random
  refine ⟨⟨h.keys, h.pause, h.dialect, h.memory_size⟩, fun k => Not.imp_symm (h.byte k),
    Not.imp_symm h.screen, Not.imp_symm h.delay, Not.imp_symm h.sound, Not.imp_symm h.stack,
    Not.imp_symm h.index, ?_, fun k => Not.imp_symm (h.register k)⟩
  rintro (hwait | htarget)
  · exact Not.imp_symm h.keyWait hwait
  · exact Not.imp_symm h.keyTarget htarget

end Machine

end Chip8
