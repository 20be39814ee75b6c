import Chip8.Machine.Execute

/-!
# One cycle

In a cycle the machine fetches the word at its program counter, moves the counter on, and executes
the instruction that the word stands for.  A machine that is paused stands still.

A word that is no instruction is reported as a fault, but it counts as a cycle and the counter
stays behind it, so that a run may go on.  After any other fault the machine is as it was before,
and the cycle does not count.

## What is here

* `Machine.fetch` — the word at the program counter.
* `Machine.runWord` — what is done with the word fetched.
* `Machine.cycle` — one cycle.
* `Machine.takesRandom` — whether the next cycle uses up a random byte.
-/

set_option autoImplicit false

namespace Chip8.Machine

/-- The word at the program counter. -/
def fetch (m : Machine) : Except Fault UInt16 := do
  let hi ← m.memory.read m.pc.toNat
  let lo ← m.memory.read (m.pc.toNat + 1)
  pure (Word.ofBytes hi lo)

/-- The machine with the program counter behind the word it points at. -/
def stepPast (m : Machine) : Machine := { m with pc := m.pc + 2 }

/-- The machine with one more cycle counted. -/
def counted (m : Machine) : Machine := { m with cycles := m.cycles + 1 }

/-- What is left of a cycle once the word at the program counter is known. -/
def runWord (random : UInt8) (word : UInt16) (m : Machine) : Executed :=
  match Instruction.decode? word with
  | none =>
    ⟨m.stepPast.counted, .error (.unknownOpcode word m.pc), [.skipped word m.pc]⟩
  | some i =>
    let o := m.stepPast.execute random i
    match o.result with
    | .ok () => { o with state := o.state.counted }
    | .error _ => { o with state := { o.state with pc := m.pc } }

/-- One cycle, with a random byte at hand. -/
def cycle (random : UInt8) (m : Machine) : Executed :=
  if m.flags.isPaused then .done m
  else match m.fetch with
    | .error f => .fault f m
    | .ok word => (m.runWord random word).after [.fetched m.cycles m.pc word]

/-- The next cycle executes the instruction that takes a random byte. -/
def takesRandom (m : Machine) : Bool :=
  !m.flags.isPaused && match m.fetch with
    | .error _ => false
    | .ok word => match Instruction.decode? word with
      | some (.random _ _) => true
      | _ => false

end Chip8.Machine
