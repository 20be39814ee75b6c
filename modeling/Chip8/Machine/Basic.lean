import Chip8.Flags
import Chip8.Memory.Basic
import Chip8.Screen.Basic

/-!
# The machine

A machine is memory, a screen, sixteen byte registers, an index into memory, a program counter, a
stack of return addresses, two timers and sixteen keys.  Register F is the flag register: several
instructions leave a bit of their result there.

## What is here

* `Machine` — the state, and `Machine.initial`, the state at power-on in a dialect.
* `reg`, `setReg`, `setFlag` — registers by number; there is nothing beyond register F.
  `reg_setReg` and `reg_setFlag` say what is read afterwards.
* `held` — keys by number; there is no key beyond F.
* `Machine.inspect` — the state as a one-line record.
-/

set_option autoImplicit false

namespace Chip8

open Text

/-- The state of a machine. -/
structure Machine where
  /-- Control flags. -/
  flags : Flags := {}
  /-- Memory. -/
  memory : Memory := .initial
  /-- The screen. -/
  screen : Screen := .dark
  /-- Return addresses, the newest first. -/
  stack : List UInt16 := []
  /-- Where the next instruction is fetched. -/
  pc : UInt16 := .ofNat Memory.programStart
  /-- The index into memory. -/
  index : UInt16 := 0
  /-- The registers. -/
  registers : Vector UInt8 16 := Vector.replicate 16 0
  /-- The delay timer. -/
  delay : UInt8 := 0
  /-- The sound timer. -/
  sound : UInt8 := 0
  /-- For each key whether it is held. -/
  keys : Vector Bool 16 := Vector.replicate 16 false
  /-- The register that a key wait fills. -/
  keyTarget : UInt64 := 0
  /-- The number of instructions gone through. -/
  cycles : UInt64 := 0
  deriving DecidableEq

namespace Machine

/-- The greatest number of return addresses that a call may make. -/
def stackDepth : Nat := 16

/-- The machine at power-on, in a dialect. -/
def initial (d : Dialect) : Machine := { flags := { dialect := d } }

/-! ## Registers and keys -/

/-- The value of register `k`. -/
def reg (m : Machine) (k : Nat) : UInt8 := m.registers[k]?.getD 0

/-- The machine with `b` in register `k`. -/
def setReg (m : Machine) (k : Nat) (b : UInt8) : Machine :=
  { m with registers := m.registers.setIfInBounds k b }

/-- The machine with 1 or 0 in the flag register. -/
def setFlag (m : Machine) (on : Bool) : Machine := m.setReg 0xf (if on then 1 else 0)

/-- Whether key `k` is held. -/
def held (m : Machine) (k : Nat) : Bool := m.keys[k]?.getD false

/-- The machine with key `k` held or not. -/
def setKey (m : Machine) (k : Nat) (down : Bool) : Machine :=
  { m with keys := m.keys.setIfInBounds k down }

/-- A tone is to be heard while the sound timer runs. -/
def isSounding (m : Machine) : Bool := decide (0 < m.sound)

theorem reg_setReg (m : Machine) (j k : Nat) (b : UInt8) :
    (m.setReg k b).reg j = if j = k ∧ k < 16 then b else m.reg j := by
  rw [reg, setReg, Vector.getElem?_setIfInBounds]
  by_cases h : k = j
  · subst h
    by_cases hk : k < 16
    · rw [if_pos rfl, if_pos hk, if_pos ⟨rfl, hk⟩, Option.getD_some]
    · rw [if_pos rfl, if_neg hk, if_neg (fun h => hk h.2), Option.getD_none, reg,
        Vector.getElem?_eq_none (by omega), Option.getD_none]
  · rw [if_neg h, if_neg (fun e => h e.1.symm), reg]

/-- Register F is 1 or 0 once it is set as a flag, and no other register changes. -/
theorem reg_setFlag (m : Machine) (j : Nat) (on : Bool) :
    (m.setFlag on).reg j = if j = 0xf then (if on then 1 else 0) else m.reg j := by
  rw [setFlag, reg_setReg]
  by_cases h : j = 0xf
  · rw [if_pos ⟨h, by decide⟩, if_pos h]
  · rw [if_neg fun e => h e.1, if_neg h]

/-- What a machine with a flag set reads in register F, and in the others. -/
theorem reg_of_eq_setFlag {m n : Machine} {on : Bool} (h : n = m.setFlag on) :
    n.reg 0xf = (if on then 1 else 0) ∧ ∀ k ≠ 0xf, n.reg k = m.reg k := by
  subst h
  exact ⟨m.reg_setFlag 0xf on, fun k hk => (m.reg_setFlag k on).trans (if_neg hk)⟩

theorem held_setKey (m : Machine) (j k : Nat) (down : Bool) :
    (m.setKey k down).held j = if j = k ∧ k < 16 then down else m.held j := by
  rw [held, setKey, Vector.getElem?_setIfInBounds]
  by_cases h : k = j
  · subst h
    by_cases hk : k < 16
    · rw [if_pos rfl, if_pos hk, if_pos ⟨rfl, hk⟩, Option.getD_some]
    · rw [if_pos rfl, if_neg hk, if_neg (fun h => hk h.2), Option.getD_none, held,
        Vector.getElem?_eq_none (by omega), Option.getD_none]
  · rw [if_neg h, if_neg (fun e => h e.1.symm), held]

/-! ## Text -/

/-- The state as a one-line record, without memory, screen and key target. -/
def inspect (m : Machine) : String :=
  openRecord "CPU"
    [("flags", m.flags.inspect),
      ("stack", sequence (m.stack.reverse.map fun a => decimal a.toNat)),
      ("pc", decimal m.pc.toNat),
      ("i", decimal m.index.toNat),
      ("v", sequence (m.registers.toList.map fun b => decimal b.toNat)),
      ("delay", decimal m.delay.toNat),
      ("sound", decimal m.sound.toNat),
      ("keys", sequence (m.keys.toList.map truth)),
      ("cycle", decimal m.cycles.toNat)]

end Machine

end Chip8
