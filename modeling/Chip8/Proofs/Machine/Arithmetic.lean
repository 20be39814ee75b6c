import Chip8.Proofs.Machine.Frame

/-!
# Arithmetic as numbers

The nine operations on two registers are done in bytes, with the flag register as a second place for
the result.  Here they are told in numbers: what an operation comes to, and what it leaves in the
flag register, if anything, as functions of the two numbers that the registers held before.  Which
of the registers are the same one does not matter to what is read, for both are read first; it
matters to what is left, for the flag is written last.

## What is here

* `AluOp.value`, `AluOp.flag?` — the result and the flag of an operation, in natural numbers and
  integers.
* `Machine.alu_eq` — the operation writes the one and then the other.
* `Machine.arithmetic_exact` — what a word `8xyn` leaves in every register.
-/

set_option autoImplicit false

namespace Chip8

/-! ## In numbers -/

/-- The number that a shift takes: that of the first register in some dialects, that of the
second in the others. -/
def Dialect.shifted (d : Dialect) (a b : Nat) : Nat := if d.shiftsInPlace then a else b

theorem Dialect.shifted_lt (d : Dialect) {a b : Nat} (ha : a < 256) (hb : b < 256) :
    d.shifted a b < 256 := by
  rw [shifted]
  split <;> assumption

namespace AluOp

/-- What an operation on the numbers `a` and `b` comes to. -/
def value (d : Dialect) (a b : Nat) : AluOp → Nat
  | .copy => b
  | .or => a ||| b
  | .and => a &&& b
  | .xor => a ^^^ b
  | .add => (a + b) % 256
  | .sub => (((a : Int) - b) % 256).toNat
  | .shiftRight => d.shifted a b / 2
  | .subFrom => (((b : Int) - a) % 256).toNat
  | .shiftLeft => 2 * d.shifted a b % 256

/-- What it leaves in the flag register, unless it leaves that alone. -/
def flag? (d : Dialect) (a b : Nat) : AluOp → Option Nat
  | .copy => none
  | .or | .and | .xor => if d.keepsFlag then none else some 0
  | .add => some ((a + b) / 256)
  | .sub => some (if b ≤ a then 1 else 0)
  | .shiftRight => some (d.shifted a b % 2)
  | .subFrom => some (if a ≤ b then 1 else 0)
  | .shiftLeft => some (d.shifted a b / 128)

variable {d : Dialect} {a b : Nat}

/-- The result is a byte. -/
theorem value_lt (op : AluOp) (ha : a < 256) (hb : b < 256) : op.value d a b < 256 := by
  have hs := d.shifted_lt ha hb
  cases op with
  | copy => exact hb
  | or => exact Nat.or_lt_two_pow (n := 8) ha hb
  | and => exact Nat.and_lt_two_pow (n := 8) a hb
  | xor => exact Nat.xor_lt_two_pow (n := 8) ha hb
  | add | sub | shiftRight | subFrom | shiftLeft => simp only [value]; omega

/-- The flag is a bit. -/
theorem flag?_lt {op : AluOp} {f : Nat} (ha : a < 256) (hb : b < 256)
    (h : op.flag? d a b = some f) : f < 2 := by
  have hs := d.shifted_lt ha hb
  cases op with
  | copy => simp [flag?] at h
  | or | and | xor =>
    simp only [flag?] at h
    split at h <;> simp at h
    omega
  | add | shiftRight | shiftLeft =>
    simp only [flag?, Option.some.injEq] at h
    omega
  | sub | subFrom =>
    simp only [flag?, Option.some.injEq] at h
    split at h <;> omega

end AluOp

/-! ## In bytes -/

namespace Machine

variable {m : Machine} {op : AluOp}

/-- Writing a byte and a bit, by their numbers. -/
theorem setFlag_setReg (m : Machine) (x : Nat) {r : UInt8} {on : Bool} {v f : Nat}
    (hr : r.toNat = v) (hf : (if on then 1 else 0) = f) :
    (m.setReg x r).setFlag on = (m.setReg x (.ofNat v)).setReg 0xf (.ofNat f) := by
  subst hr hf
  cases on <;> simp [setFlag]

/-- The operation writes the result and then, if there is one, the flag. -/
theorem alu_eq (m : Machine) (op : AluOp) (x y : Nat) :
    m.alu op x y =
      let a := (m.reg x).toNat
      let b := (m.reg y).toNat
      let set := m.setReg x (.ofNat (op.value m.flags.dialect a b))
      match op.flag? m.flags.dialect a b with
      | none => set
      | some f => set.setReg 0xf (.ofNat f) := by
  have ha := (m.reg x).toNat_lt
  have hb := (m.reg y).toNat_lt
  have hshift : (if m.flags.dialect.shiftsInPlace then m.reg x else m.reg y).toNat =
      m.flags.dialect.shifted (m.reg x).toNat (m.reg y).toNat := by
    simp only [Dialect.shifted]
    split <;> rfl
  cases op with
  | copy => simp [alu, AluOp.value, AluOp.flag?]
  | or | and | xor =>
    simp only [alu, setBitwise, AluOp.value, AluOp.flag?]
    cases m.flags.dialect.keepsFlag <;> simp [setFlag]
  | add =>
    refine setFlag_setReg m x (by simp [AluOp.value]) ?_
    simp only [decide_eq_true_eq]
    split <;> omega
  | sub | subFrom =>
    refine setFlag_setReg m x ?_ ?_
    · simp only [UInt8.toNat_sub, AluOp.value]
      omega
    · simp only [decide_eq_true_eq, UInt8.le_iff_toNat_le]
  | shiftRight =>
    refine setFlag_setReg m x ?_ ?_
    · simp [AluOp.value, hshift, Nat.shiftRight_eq_div_pow]
    · simp only [hshift, Nat.testBit_eq_decide_div_mod_eq, decide_eq_true_eq]
      split <;> omega
  | shiftLeft =>
    have hs := m.flags.dialect.shifted_lt ha hb
    refine setFlag_setReg m x ?_ ?_
    · simp [AluOp.value, hshift, Nat.shiftLeft_eq, Nat.mul_comm]
    · simp only [hshift, Nat.testBit_eq_decide_div_mod_eq, decide_eq_true_eq]
      split <;> omega

/-- An operation without a flag leaves its result. -/
theorem reg_alu_of_none {x y : Nat} (hx : x < 16)
    (hf : op.flag? m.flags.dialect (m.reg x).toNat (m.reg y).toNat = none) (k : Nat) :
    (m.alu op x y).reg k =
      if k = x then .ofNat (op.value m.flags.dialect (m.reg x).toNat (m.reg y).toNat)
      else m.reg k := by
  rw [alu_eq]
  simp only [hf, reg_setReg, hx, and_true]

/-- An operation with a flag leaves the flag, and its result where that is another register. -/
theorem reg_alu_of_some {x y f : Nat} (hx : x < 16)
    (hf : op.flag? m.flags.dialect (m.reg x).toNat (m.reg y).toNat = some f) (k : Nat) :
    (m.alu op x y).reg k =
      if k = 0xf then .ofNat f
      else if k = x then .ofNat (op.value m.flags.dialect (m.reg x).toNat (m.reg y).toNat)
      else m.reg k := by
  rw [alu_eq]
  simp only [hf, reg_setReg, hx, and_true]
  simp

/-- An operation changes nothing but registers, and takes nothing from the program counter. -/
theorem alu_stepPast (m : Machine) (op : AluOp) (x y : Nat) :
    m.alu op x y = { m with registers := (m.alu op x y).registers } ∧
      m.stepPast.alu op x y = { m.stepPast with registers := (m.alu op x y).registers } := by
  simp only [alu_eq]
  have hflag : m.stepPast.flags = m.flags := rfl
  have hreg : ∀ k, m.stepPast.reg k = m.reg k := fun _ => rfl
  rw [hflag, hreg, hreg]
  cases op.flag? m.flags.dialect (m.reg x).toNat (m.reg y).toNat <;> exact ⟨rfl, rfl⟩

/-- **Arithmetic is exact.**  The word `8xyn` stands for the operation with the code `n`.
Executed, and in a cycle that fetches it, the operation changes registers `x` and F at most, and
counter and number of cycles as every instruction does.  The flag register holds the flag if
there is one, even where it is `x` itself; `x` holds the result otherwise, and every other
register what it held before. -/
theorem arithmetic_exact {w : UInt16} (hk : Word.kind w = 0x8) (hn : Word.low w = op.code)
    (m : Machine) (random : UInt8) :
    let x := (Word.x w).toNat
    let y := (Word.y w).toNat
    let a := (m.reg x).toNat
    let b := (m.reg y).toNat
    let d := m.flags.dialect
    ∃ registers,
      (∃ i, Instruction.decode? w = some i ∧
        m.execute random i = .done { m with registers }) ∧
      (m.flags.isPaused = false → m.fetch = .ok w → m.cycle random =
        ⟨{ m with registers, pc := m.pc + 2, cycles := m.cycles + 1 }, .ok (),
          [.fetched m.cycles m.pc w]⟩) ∧
      let after : Machine := { m with registers }
      (∀ f, op.flag? d a b = some f → (after.reg 0xf).toNat = f) ∧
      (x ≠ 0xf ∨ op.flag? d a b = none → (after.reg x).toNat = op.value d a b) ∧
      ∀ k, k ≠ x → k ≠ 0xf ∨ op.flag? d a b = none → after.reg k = m.reg k := by
  intro x y a b d
  have hx : x < 16 := Word.x_lt w
  have ha : a < 256 := (m.reg x).toNat_lt
  have hb : b < 256 := (m.reg y).toNat_lt
  have hw : Instruction.decode? w = some (.alu op (Word.x w) (Word.y w)) :=
    Instruction.decode?_of_kind_alu op hk hn
  obtain ⟨hnow, hthen⟩ := m.alu_stepPast op x y
  refine ⟨(m.alu op x y).registers, ⟨_, hw, congrArg Outcome.done hnow⟩, fun hp hfetch => ?_, ?_⟩
  · have hrun : m.stepPast.execute random (.alu op (Word.x w) (Word.y w)) =
        .done { m.stepPast with registers := (m.alu op x y).registers } :=
      congrArg Outcome.done hthen
    rw [cycle, hp, hfetch]
    simp only [runWord, hw, hrun]
    rfl
  · intro after
    have hafter : after = m.alu op x y := hnow.symm
    have hvalue : (UInt8.ofNat (op.value d a b)).toNat = op.value d a b :=
      Nat.mod_eq_of_lt (AluOp.value_lt op ha hb)
    rw [hafter]
    cases hf : op.flag? d a b with
    | none =>
      refine ⟨by simp, fun _ => ?_, fun k hkx _ => ?_⟩
      · rw [reg_alu_of_none hx hf, if_pos rfl, hvalue]
      · rw [reg_alu_of_none hx hf, if_neg hkx]
    | some f =>
      have hbit := AluOp.flag?_lt ha hb hf
      refine ⟨?_, ?_, ?_⟩
      · rintro f' ⟨⟩
        rw [reg_alu_of_some hx hf, if_pos rfl]
        exact Nat.mod_eq_of_lt (by omega)
      · intro hxf
        have hxf : x ≠ 0xf := by simpa using hxf
        rw [reg_alu_of_some hx hf, if_neg hxf, if_pos rfl, hvalue]
      · intro k hkx hkf
        have hkf : k ≠ 0xf := by simpa using hkf
        rw [reg_alu_of_some hx hf, if_neg hkf, if_neg hkx]

set_option maxRecDepth 100000 in
/-- A sum that goes into the flag register is lost there, and the carry stays. -/
theorem arithmetic_exact_into_flag :
    let m := (({ memory := ⟨Memory.blit Memory.initial.bytes 0x200 [0x8f, 0x14]⟩ } :
      Machine).setReg 0xf 200).setReg 1 100
    Word.kind 0x8f14 = 0x8 ∧ Word.low 0x8f14 = AluOp.add.code ∧ m.flags.isPaused = false ∧
      m.fetch = .ok 0x8f14 ∧ (m.cycle 0).result = .ok () ∧
      ((m.cycle 0).state.reg 0xf).toNat = (200 + 100) / 256 ∧ (m.cycle 0).state.reg 1 = 100 := by
  intro m
  have h : m.flags.isPaused = false ∧ m.pc.toNat + 1 < m.memory.size ∧ m.word = 0x8f14 ∧
      m.reg 0xf = 200 ∧ m.reg 1 = 100 := by
    decide +kernel
  obtain ⟨hp, hpc, hword, hx, hy⟩ := h
  have hfetch : m.fetch = .ok 0x8f14 := hword ▸ fetch_of_lt hpc
  have hk : Word.kind 0x8f14 = 0x8 := by decide
  have hn : Word.low 0x8f14 = AluOp.add.code := by decide
  clear_value m
  obtain ⟨registers, -, hcycle, hflag, -, hother⟩ := arithmetic_exact hk hn m 0
  have hcarry := hflag _ rfl
  have hsame := hother 1 (by decide) (.inl (by decide))
  rw [show (Word.x 0x8f14).toNat = 0xf from rfl, show (Word.y 0x8f14).toNat = 1 from rfl, hx,
    hy] at hcarry
  rw [hcycle hp hfetch]
  exact ⟨hk, hn, hp, hfetch, rfl, hcarry, hsame.trans hy⟩

end Machine

end Chip8
