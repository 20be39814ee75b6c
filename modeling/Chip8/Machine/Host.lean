import Chip8.Machine.Basic
import Chip8.Machine.Event

/-!
# The machine and its surroundings

What happens to a machine from outside: a program is loaded, keys are pressed and released, the
timers count down sixty times a second, a debugger sets a register, somebody pushes the reset
button.

## What is here

* `load` — puts a program into memory, and `load_eq`, that nothing is lost where it fails.
* `press`, `release` — a key goes down or up; a press may end a key wait.
* `tick` — the timers count down.
* `setRegister`, `reset`.
* `listing` — the registers as text, and `dump`, which also reports it.
-/

set_option autoImplicit false

namespace Chip8.Machine

open Text

/-- Puts a program into memory in place of the last one.  Whether there is room for it is settled
first, because the last program is gone when memory in its turn looks at the
length of the new one. -/
def load (program : List UInt8) (m : Machine) : Outcome Machine (Except Fault Unit) :=
  if Memory.programLimit < program.length then
    .fault (.programTooLarge program.length Memory.programLimit) m
  else
    let cleared := { m with memory := m.memory.clearProgram }
    let w := cleared.memory.loadProgram program
    let loaded := { cleared with memory := w.memory }
    match w.result with
    | .error f => .fault f loaded
    | .ok () => ⟨loaded, .ok (), [.loaded program.length]⟩

/-- **A load that fails changes nothing**: what passes the first look at its length passes the
second, so the last program is never cleared away in vain. -/
theorem load_eq (program : List UInt8) (m : Machine) :
    m.load program =
      if Memory.programLimit < program.length then
        .fault (.programTooLarge program.length Memory.programLimit) m
      else
        ⟨{ m with memory := (m.memory.clearProgram.loadProgram program).memory }, .ok (),
          [.loaded program.length]⟩ := by
  rw [load]
  split
  · rfl
  · next hle =>
    dsimp only
    rw [Memory.loadProgram, if_pos (Nat.le_of_not_lt hle)]

/-- A key goes down.  The answer is whether that is news: the key exists and was not held.  If so,
and a program waits for a key, its wait is over. -/
def press (k : Nat) (m : Machine) : Outcome Machine Bool :=
  if k < 16 ∧ m.held k = false then
    let m := m.setKey k true
    if m.flags.keyWait then
      ⟨{ m.setReg m.keyTarget.toNat (.ofNat k) with flags := { m.flags with keyWait := false } },
        true, [.resumed k m.keyTarget]⟩
    else ⟨m, true, []⟩
  else ⟨m, false, []⟩

/-- A key goes up.  The answer is whether it was held. -/
def release (k : Nat) (m : Machine) : Outcome Machine Bool :=
  if m.held k then ⟨m.setKey k false, true, []⟩ else ⟨m, false, []⟩

/-- Both timers count down, as far as zero. -/
def tick (m : Machine) : Machine :=
  { m with
    delay := if m.delay = 0 then 0 else m.delay - 1
    sound := if m.sound = 0 then 0 else m.sound - 1 }

/-- Sets a register.  The answer is whether there is one of that number. -/
def setRegister (k : Nat) (b : UInt8) (m : Machine) : Outcome Machine Bool :=
  ⟨m.setReg k b, decide (k < 16), []⟩

/-- Starts over: everything is as at power-on, except that memory and dialect are kept. -/
def reset (m : Machine) : Machine :=
  { initial m.flags.dialect with memory := m.memory, screen := m.screen.clear }

/-! ## Listing the registers -/

/-- Register `k` with its number; every fourth one ends a line. -/
def registerListing (k : Nat) (b : UInt8) : String :=
  "v" ++ hexUpper k ++ ": " ++ hex 2 b.toNat ++ " " ++ (if k % 4 = 3 then "\n" else "")

/-- Program counter, depth of the stack, index, registers, timers and number of cycles. -/
def listing (m : Machine) : String :=
  "PC: " ++ hex 4 m.pc.toNat ++ ", SP: " ++ hex 4 m.stack.length ++ ", I: " ++
    hex 4 m.index.toNat ++ "\n" ++
    String.join (m.registers.toList.mapIdx registerListing) ++
    "DLY: " ++ decimal m.delay.toNat ++ ", SND: " ++ decimal m.sound.toNat ++ ", CYC: " ++
    padLeft 6 (decimal m.cycles.toNat)

/-- Lists the registers and reports the listing. -/
def dump (m : Machine) : Outcome Machine String := ⟨m, m.listing, [.listed m.listing]⟩

end Chip8.Machine
