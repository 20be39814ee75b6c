import Chip8.Text.Numeral
import Chip8.Memory.Basic
import Chip8.Instruction.Assembly

/-!
# Events worth a line in a log

A machine reports what it does as events.  An event has a level, by which a reader chooses what to
see, and a message.

## What is here

* `Event` — the events.
* `Event.level`, `Event.message` — how loud an event is, and what is said.
* `Outcome` — what an operation leaves: a state, a result and the events on the way.
-/

set_option autoImplicit false

namespace Chip8

open Text

/-- How loud an event is. -/
inductive Level where
  /-- Every single step. -/
  | trace
  /-- Changes of interest to somebody who looks for an error. -/
  | debug
  /-- Something is likely wrong. -/
  | warn
  deriving DecidableEq, Repr

/-- The name of a level. -/
def Level.name : Level → String
  | .trace => "TRACE"
  | .debug => "DEBUG"
  | .warn => "WARN"

/-- Something that a machine reports. -/
inductive Event where
  /-- A program of this size was put into memory. -/
  | loaded (size : Nat)
  /-- In a cycle of this number a word was fetched. -/
  | fetched (cycle : UInt64) (pc word : UInt16)
  /-- The word at this address is no instruction and was stepped over. -/
  | skipped (word pc : UInt16)
  /-- The program waits for a key, whose number goes into this register. -/
  | waiting (register : UInt64)
  /-- A key ended the wait. -/
  | resumed (key : Nat) (register : UInt64)
  /-- The registers were listed. -/
  | listed (text : String)
  deriving DecidableEq, Repr

namespace Event

/-- How loud the event is. -/
def level : Event → Level
  | .fetched _ _ _ => .trace
  | .skipped _ _ => .warn
  | _ => .debug

/-- What is said of the event. -/
def message : Event → String
  | .loaded size =>
    "loaded " ++ decimal size ++ " byte program at " ++ hex 3 Memory.programStart
  | .fetched cycle pc word =>
    padLeft 6 (decimal cycle.toNat) ++ " " ++ hex 3 pc.toNat ++ ": " ++
      padRight 36 (Disassembly.plain.once word)
  | .skipped word pc =>
    "skipping unknown opcode " ++ hex 4 word.toNat ++ " at " ++ hex 3 pc.toNat
  | .waiting register => "waiting for key -> " ++ registerText register
  | .resumed key register =>
    "key " ++ hexUpper key ++ " -> " ++ registerText register ++ ", resuming"
  | .listed text => "\n" ++ text

end Event

/-- What an operation on a state of type `σ` leaves behind. -/
structure Outcome (σ α : Type) where
  /-- The state afterwards. -/
  state : σ
  /-- What the operation answers. -/
  result : α
  /-- What was reported on the way, in order. -/
  events : List Event := []

namespace Outcome

variable {σ α : Type}

/-- The operation succeeded and reported nothing. -/
def done (s : σ) : Outcome σ (Except Fault Unit) := ⟨s, .ok (), []⟩

/-- The operation failed and reported nothing. -/
def fault (f : Fault) (s : σ) : Outcome σ (Except Fault Unit) := ⟨s, .error f, []⟩

/-- The outcome with something reported before everything else. -/
def after (o : Outcome σ α) (earlier : List Event) : Outcome σ α :=
  { o with events := earlier ++ o.events }

theorem after_after (o : Outcome σ α) (xs ys : List Event) :
    (o.after xs).after ys = o.after (ys ++ xs) := by
  simp only [after, List.append_assoc]

end Outcome

end Chip8
