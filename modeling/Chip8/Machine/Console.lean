import Chip8.Machine.Cycle
import Chip8.Machine.Host

/-!
# A machine that runs

A console is a machine together with a supply of random bytes, of which an instruction may take
the next.  This file says how cycles follow one another, and gathers everything that can be done
to a running machine into one type.

## What is here

* `Entropy` — an endless supply of random bytes.
* `Console.cycle`, `Console.run` — one cycle, and a number of them; a run stops at the first fault
  that it cannot step over.
* `Operation`, `Console.perform` — everything that can be done to a running machine.
-/

set_option autoImplicit false

namespace Chip8

/-! ## Random bytes -/

/-- An endless supply of bytes, some of them taken. -/
structure Entropy where
  /-- The bytes in order. -/
  byte : Nat → UInt8
  /-- How many have been taken. -/
  taken : Nat := 0

namespace Entropy

/-- The next byte. -/
def next (e : Entropy) : UInt8 := e.byte e.taken

/-- The supply after the next byte was taken. -/
def rest (e : Entropy) : Entropy := { e with taken := e.taken + 1 }

end Entropy

/-! ## Cycles in a row -/

/-- A machine with a supply of random bytes. -/
structure Console where
  /-- The machine. -/
  machine : Machine
  /-- The random bytes to come. -/
  entropy : Entropy

namespace Console

/-- One cycle, which takes a random byte only if it needs one. -/
def cycle (c : Console) : Outcome Console (Except Fault Unit) :=
  let o := c.machine.cycle c.entropy.next
  ⟨⟨o.state, if c.machine.takesRandom then c.entropy.rest else c.entropy⟩, o.result, o.events⟩

/-- A run goes on after this result of a cycle. -/
def goesOn : Except Fault Unit → Bool
  | .ok () => true
  | .error f => f.isRecoverable

/-- Runs for `n` cycles with the events so far at hand, the last one first. -/
def runWith : Nat → Console → List Event → Outcome Console (Except Fault Unit)
  | 0, c, log => ⟨c, .ok (), log.reverse⟩
  | n + 1, c, log =>
    let o := c.cycle
    if goesOn o.result then runWith n o.state (o.events.reverse ++ log)
    else ⟨o.state, o.result, log.reverse ++ o.events⟩

/-- Runs for `n` cycles.  Words that are no instructions are stepped over; any other fault ends the
run and is its result. -/
def run (n : Nat) (c : Console) : Outcome Console (Except Fault Unit) := runWith n c []

theorem runWith_eq (n : Nat) (c : Console) (log : List Event) :
    runWith n c log = (run n c).after log.reverse := by
  induction n generalizing c log with
  | zero => simp only [run, runWith, Outcome.after, List.reverse_nil, List.append_nil]
  | succ n ih =>
    rw [run, runWith, runWith]
    by_cases h : goesOn c.cycle.result = true
    · rw [if_pos h, if_pos h, ih, ih c.cycle.state (c.cycle.events.reverse ++ []),
        Outcome.after_after, List.append_nil, List.reverse_append, List.reverse_reverse]
    · rw [if_neg h, if_neg h, Outcome.after, List.reverse_nil, List.nil_append]

@[simp] theorem run_zero (c : Console) : run 0 c = .done c := rfl

/-- **A run is its first cycle followed by the rest of the run.** -/
theorem run_succ (n : Nat) (c : Console) :
    run (n + 1) c =
      if goesOn c.cycle.result then (run n c.cycle.state).after c.cycle.events else c.cycle := by
  rw [run, runWith]
  by_cases h : goesOn c.cycle.result = true
  · rw [if_pos h, if_pos h, runWith_eq, List.append_nil, List.reverse_reverse]
  · rw [if_neg h, if_neg h, List.reverse_nil, List.nil_append]

end Console

/-! ## Everything that can be done -/

/-- Something done to a running machine. -/
inductive Operation where
  /-- Loads a program. -/
  | load (program : List UInt8)
  /-- Makes one cycle. -/
  | cycle
  /-- Makes a number of cycles. -/
  | run (n : Nat)
  /-- Counts the timers down. -/
  | tick
  /-- Presses a key. -/
  | press (k : Nat)
  /-- Releases a key. -/
  | release (k : Nat)
  /-- Sets a register. -/
  | setRegister (k : Nat) (b : UInt8)
  /-- Starts over. -/
  | reset
  /-- Pauses the machine, or lets it go on. -/
  | togglePause
  /-- Begins or ends a key wait by hand. -/
  | setKeyWait (on : Bool)
  /-- Chooses another dialect. -/
  | setDialect (d : Dialect)
  /-- Changes memory. -/
  | edit (e : Memory.Edit)
  deriving DecidableEq, Repr

/-- What an operation answers. -/
inductive Answer where
  /-- It is done. -/
  | done
  /-- Yes or no. -/
  | flag (b : Bool)
  /-- It failed. -/
  | failed (f : Fault)
  deriving DecidableEq, Repr

/-- A result without a value as an answer. -/
def Answer.ofResult : Except Fault Unit → Answer
  | .ok () => .done
  | .error f => .failed f

namespace Console

/-- The console with a change made to its machine that answers and reports nothing. -/
def change (c : Console) (m : Machine) : Outcome Console Answer :=
  ⟨{ c with machine := m }, .done, []⟩

/-- The console with what an operation on its machine left behind. -/
def settle {α : Type} (c : Console) (answer : α → Answer) (o : Outcome Machine α) :
    Outcome Console Answer :=
  ⟨{ c with machine := o.state }, answer o.result, o.events⟩

/-- What an outcome of cycles answers. -/
def answered (o : Outcome Console (Except Fault Unit)) : Outcome Console Answer :=
  ⟨o.state, .ofResult o.result, o.events⟩

/-- What an edit of memory leaves behind. -/
def edit (c : Console) (e : Memory.Edit) : Outcome Console Answer :=
  let w := c.machine.memory.perform e
  c.settle .ofResult ⟨{ c.machine with memory := w.memory }, w.result, []⟩

/-- Performs an operation. -/
def perform (c : Console) : Operation → Outcome Console Answer
  | .load program => c.settle .ofResult (c.machine.load program)
  | .cycle => answered c.cycle
  | .run n => answered (c.run n)
  | .tick => c.change c.machine.tick
  | .press k => c.settle .flag (c.machine.press k)
  | .release k => c.settle .flag (c.machine.release k)
  | .setRegister k b => c.settle .flag (c.machine.setRegister k b)
  | .reset => c.change c.machine.reset
  | .togglePause => c.change { c.machine with flags := c.machine.flags.togglePause }
  | .setKeyWait on => c.change { c.machine with flags := { c.machine.flags with keyWait := on } }
  | .setDialect d => c.change { c.machine with flags := { c.machine.flags with dialect := d } }
  | .edit e => c.edit e

end Console

end Chip8
