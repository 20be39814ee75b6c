import Chip8.Proofs.Machine.Runs
import Chip8.Proofs.Machine.Setting

/-!
# Timers count ticks and nothing else

Two instructions store a number in a timer, a tick takes one off, and starting over puts both timers
to zero.  Nothing else reaches them: neither the cycles that go by nor a pause, keys, or what is
done to memory and registers.  So the timers can be told from a log of these events alone, and this
file reads them off it: a timer is at the number that was last stored less the ticks since then, or
at zero if there were more of them.

## What is here

* `TimerEvent` — an event of the log; `Timer.stored` and `Timer.ticksSince`, what the log says of a
  timer.
* `Machine.timerEvents`, `Console.timerLog` — the events of a cycle, and of a list of operations.
* `Timer.value_append` — how the value that is read off a log moves on with its events.
* `Machine.timer_cycle`, `Console.timer_perform` — the timers move on in the same way.
* `Console.timers_count_ticks` — the timers are what the log says, between operations as well as
  between the cycles of a run.
-/

set_option autoImplicit false

namespace Chip8

/-! ## The log -/

/-- One of the two timers. -/
inductive Timer where
  /-- The timer that a program reads. -/
  | delay
  /-- The timer that is heard. -/
  | sound
  deriving DecidableEq

/-- Something that happens to timers. -/
inductive TimerEvent where
  /-- A program stores a number in a timer. -/
  | store (k : Timer) (b : UInt8)
  /-- Both timers count down. -/
  | tick
  /-- The machine starts over. -/
  | reset
  deriving DecidableEq

/-- What was before this event does not matter to the timer any more. -/
def TimerEvent.settles (k : Timer) : TimerEvent → Bool
  | .store j _ => decide (j = k)
  | .tick => false
  | .reset => true

/-- What an event makes of a timer that is at `n`. -/
def TimerEvent.next (k : Timer) (n : Nat) : TimerEvent → Nat
  | .store j b => if j = k then b.toNat else n
  | .tick => n - 1
  | .reset => 0

namespace Timer

variable {k : Timer} {log : List TimerEvent} {e : TimerEvent}

/-- The number last stored in the timer since the machine has started, 0 if there is none. -/
def stored (k : Timer) (log : List TimerEvent) : UInt8 :=
  match log.reverse.find? (·.settles k) with
  | some (.store _ b) => b
  | _ => 0

/-- The number of ticks since then. -/
def ticksSince (k : Timer) (log : List TimerEvent) : Nat :=
  (log.reverse.takeWhile fun e => !e.settles k).count .tick

/-- Where the timer is by the log. -/
def value (k : Timer) (log : List TimerEvent) : Nat := (k.stored log).toNat - k.ticksSince log

theorem stored_concat_of_settles (h : e.settles k = true) :
    k.stored (log ++ [e]) = match e with
      | .store _ b => b
      | _ => 0 := by
  rw [stored, List.reverse_concat, List.find?_cons_of_pos h]
  cases e <;> rfl

theorem ticksSince_concat_of_settles (h : e.settles k = true) : k.ticksSince (log ++ [e]) = 0 := by
  rw [ticksSince, List.reverse_concat, List.takeWhile_cons_of_neg (by rw [h]; decide),
    List.count_nil]

theorem stored_concat (h : e.settles k = false) : k.stored (log ++ [e]) = k.stored log := by
  rw [stored, List.reverse_concat, List.find?_cons_of_neg (by rw [h]; decide), stored]

theorem ticksSince_concat (h : e.settles k = false) :
    k.ticksSince (log ++ [e]) = k.ticksSince log + if e = .tick then 1 else 0 := by
  rw [ticksSince, List.reverse_concat, List.takeWhile_cons_of_pos (by rw [h]; decide),
    List.count_cons, ticksSince]
  simp only [beq_iff_eq]

/-- One more event moves the value on. -/
theorem value_concat (k : Timer) (log : List TimerEvent) (e : TimerEvent) :
    k.value (log ++ [e]) = e.next k (k.value log) := by
  cases h : e.settles k with
  | true =>
    rw [value, stored_concat_of_settles h, ticksSince_concat_of_settles h, Nat.sub_zero]
    cases e with
    | store j b => rw [TimerEvent.next, if_pos (of_decide_eq_true h)]
    | tick => cases h
    | reset => rfl
  | false =>
    rw [value, stored_concat h, ticksSince_concat h]
    cases e with
    | store j b =>
      rw [TimerEvent.next, if_neg (of_decide_eq_false h), if_neg nofun, Nat.add_zero, value]
    | tick => rw [TimerEvent.next, if_pos rfl, value, Nat.sub_sub]
    | reset => cases h

/-- **The value that is read off a log moves on with every event**. -/
theorem value_append (k : Timer) (log es : List TimerEvent) :
    k.value (log ++ es) = es.foldl (TimerEvent.next k) (k.value log) := by
  induction es generalizing log with
  | nil => rw [List.append_nil, List.foldl_nil]
  | cons e es ih => rw [List.append_cons, ih, value_concat, List.foldl_cons]

end Timer

/-! ## One step -/

/-- The value of a timer. -/
def Setting.timer (s : Setting) : Timer → UInt8
  | .delay => s.delay
  | .sound => s.sound

namespace Machine

variable {m : Machine} {log : List TimerEvent}

/-- The value of a timer. -/
def timer (m : Machine) (k : Timer) : UInt8 := m.setting.timer k

/-- What the next cycle does to the timers. -/
def timerEvents (m : Machine) : List TimerEvent :=
  match m.executed? with
  | some (.misc .setDelay x) => [.store .delay (m.reg x.toNat)]
  | some (.misc .setSound x) => [.store .sound (m.reg x.toNat)]
  | _ => []

theorem timer_execute (m : Machine) (random : UInt8) (i : Instruction) (k : Timer) :
    (m.execute random i).state.timer k = (m.settled i m.setting).timer k := by
  rw [timer, setting_execute]

/-- **A cycle moves the timers on with its events.** -/
theorem timer_cycle (m : Machine) (random : UInt8) (k : Timer) :
    ((m.cycle random).state.timer k).toNat =
      m.timerEvents.foldl (TimerEvent.next k) (m.timer k).toNat := by
  rw [timerEvents]
  cases he : m.executed? with
  | none =>
    have hno : ∀ i, ¬ m.Executes i := by
      intro i hi
      rw [executed?_eq_some_iff.2 hi] at he
      cases he
    obtain hs | hs | ⟨i, hi⟩ := m.state_cycle_cases random
    · rw [hs]
      rfl
    · rw [hs]
      cases k <;> rfl
    · exact absurd hi (hno i)
  | some i =>
    have hi := executed?_eq_some_iff.1 he
    have hcounted : (m.cycle random).state.timer k =
        (m.stepPast.execute random i).state.timer k := by
      rw [state_of_executes hi]
      cases k <;> rfl
    rw [hcounted, timer_execute]
    cases i with
    | misc op x => cases op <;> cases k <;> rfl
    | system | jump | call | skipEqByte | skipNeByte | skipEq | setByte | addByte | alu | skipNe
    | setIndex | jumpOffset | random | draw | key => cases k <;> rfl

theorem timer_tick (m : Machine) (k : Timer) : (m.tick.timer k).toNat = (m.timer k).toNat - 1 := by
  have hdown : ∀ b : UInt8, (if b = 0 then 0 else b - 1).toNat = b.toNat - 1 := by
    intro b
    by_cases hb : b = 0
    · rw [if_pos hb, hb]
      rfl
    · have hpos : b.toNat ≠ 0 := fun h => hb (UInt8.toNat_inj.1 h)
      have hle : (1 : UInt8) ≤ b := UInt8.le_iff_toNat_le.2 (Nat.one_le_iff_ne_zero.2 hpos)
      rw [if_neg hb, UInt8.toNat_sub_of_le b 1 hle]
      rfl
  cases k with
  | delay => exact hdown m.delay
  | sound => exact hdown m.sound

/-- Reading the delay timer leaves it in the register. -/
theorem reg_of_executes_readDelay {x : UInt64} (h : m.Executes (.misc .readDelay x))
    (random : UInt8) : (m.cycle random).state.reg x.toNat = m.delay := by
  have hx : x.toNat < 16 := Instruction.fits_of_decode? (executes_iff.1 h).2.2.1
  rw [state_of_executes h]
  show (m.stepPast.setReg x.toNat m.delay).reg x.toNat = m.delay
  rw [reg_setReg, if_pos ⟨rfl, hx⟩]

/-- Both timers are where the log says, and a tone is to be heard iff the log has the
sound timer above zero. -/
structure InStep (m : Machine) (log : List TimerEvent) : Prop where
  delay : m.delay.toNat = (Timer.delay.stored log).toNat - Timer.delay.ticksSince log
  sound : m.sound.toNat = (Timer.sound.stored log).toNat - Timer.sound.ticksSince log
  isSounding : m.isSounding = true ↔
    0 < (Timer.sound.stored log).toNat - Timer.sound.ticksSince log

theorem inStep_of_timer (h : ∀ k, (m.timer k).toNat = k.value log) : m.InStep log where
  delay := h .delay
  sound := h .sound
  isSounding := by
    have hsound : m.sound.toNat = Timer.sound.value log := h .sound
    rw [isSounding, decide_eq_true_eq, UInt8.lt_iff_toNat_lt, hsound]
    rfl

end Machine

namespace Console

/-- What an operation does to the timers. -/
def timerEvents (c : Console) : Operation → List TimerEvent
  | .tick => [.tick]
  | .reset => [.reset]
  | op => (c.starts op).flatMap Machine.timerEvents

/-- The log of a list of operations. -/
def timerLog (c : Console) : List Operation → List TimerEvent
  | [] => []
  | op :: ops => c.timerEvents op ++ (c.perform op).state.timerLog ops

/-- A run moves the timers on with the events of its cycles. -/
theorem timer_run (c : Console) (n : Nat) (k : Timer) :
    ((c.run n).state.machine.timer k).toNat =
      ((c.runStarts n).flatMap Machine.timerEvents).foldl (TimerEvent.next k)
        (c.machine.timer k).toNat := by
  induction n generalizing c with
  | zero => rfl
  | succ n ih =>
    rw [run_succ, runStarts, List.flatMap_cons, List.foldl_append,
      ← c.machine.timer_cycle c.entropy.next]
    by_cases hg : goesOn c.cycle.result = true
    · rw [if_pos hg, if_pos hg]
      exact ih c.cycle.state
    · rw [if_neg hg, if_neg hg]
      rfl

/-- **An operation moves the timers on with its events**, and one without any leaves them. -/
theorem timer_perform (c : Console) (op : Operation) (k : Timer) :
    ((c.perform op).state.machine.timer k).toNat =
      (c.timerEvents op).foldl (TimerEvent.next k) (c.machine.timer k).toNat := by
  cases op with
  | cycle =>
    show _ = ([c.machine].flatMap Machine.timerEvents).foldl _ _
    rw [List.flatMap_singleton]
    exact c.machine.timer_cycle c.entropy.next k
  | run n => exact c.timer_run n k
  | tick => exact c.machine.timer_tick k
  | reset => cases k <;> rfl
  | load program =>
    rw [perform, Machine.load_eq]
    split <;> rfl
  | press j =>
    rw [perform, Machine.press]
    split
    · dsimp only
      split <;> cases k <;> rfl
    · rfl
  | release j =>
    rw [perform, Machine.release]
    split <;> rfl
  | setRegister | togglePause | setKeyWait | setDialect | edit => cases k <;> rfl

/-! ## Whole runs -/

theorem timer_performAll (c : Console) (ops : List Operation) (k : Timer) :
    ((c.performAll ops).machine.timer k).toNat =
      (c.timerLog ops).foldl (TimerEvent.next k) (c.machine.timer k).toNat := by
  induction ops generalizing c with
  | nil => rfl
  | cons op ops ih => rw [timerLog, List.foldl_append, ← timer_perform, performAll, ih]

theorem timer_starts {c : Console} {op : Operation} {i : Nat} (hi : i < (c.starts op).length)
    (k : Timer) :
    ((c.starts op)[i].timer k).toNat =
      (((c.starts op).take i).flatMap Machine.timerEvents).foldl (TimerEvent.next k)
        (c.machine.timer k).toNat := by
  cases op with
  | cycle =>
    have h0 : i = 0 := Nat.lt_one_iff.1 hi
    subst h0
    rfl
  | run n =>
    obtain ⟨hstart, htake⟩ := getElem_runStarts hi
    show ((c.runStarts n)[i].timer k).toNat = (((c.runStarts n).take i).flatMap _).foldl _ _
    rw [hstart, htake]
    exact c.timer_run i k
  | load | tick | press | release | setRegister | reset | togglePause | setKeyWait | setDialect
  | edit => exact absurd hi (Nat.not_lt_zero i)

/-- By the log of a run from power-on, both timers are at their value. -/
theorem timer_powerOn (d : Dialect) (e : Entropy) (ops : List Operation) (k : Timer) :
    (((powerOn d e).performAll ops).machine.timer k).toNat =
      k.value ((powerOn d e).timerLog ops) := by
  have hstart : ((powerOn d e).machine.timer k).toNat = k.value [] := by
    cases k <;> rfl
  rw [timer_performAll, hstart, ← Timer.value_append, List.nil_append]

/-- **Timers count ticks and nothing else.**  After any operations from power-on each timer is
at the number last stored in it since the machine has started over, less the ticks since then,
and never below zero; and so it is when the next operation has made some of its cycles.  A tone
is to be heard while the sound timer is above zero.  An instruction that reads the delay timer
gets this very number. -/
theorem timers_count_ticks (d : Dialect) (e : Entropy) (ops : List Operation) :
    let c := (powerOn d e).performAll ops
    let log := (powerOn d e).timerLog ops
    c.machine.InStep log ∧
      ∀ op i, (hi : i < (c.starts op).length) →
        let m := (c.starts op)[i]
        let log' := log ++ ((c.starts op).take i).flatMap Machine.timerEvents
        m.InStep log' ∧ ∀ x, m.Executes (.misc .readDelay x) → ∀ random,
          ((m.cycle random).state.reg x.toNat).toNat =
            (Timer.delay.stored log').toNat - Timer.delay.ticksSince log' := by
  intro c log
  have hnow : ∀ k, (c.machine.timer k).toNat = k.value log := timer_powerOn d e ops
  refine ⟨Machine.inStep_of_timer hnow, fun op i hi => ?_⟩
  intro m log'
  have hthen : ∀ k, (m.timer k).toNat = k.value log' := by
    intro k
    rw [timer_starts hi k, hnow k, ← Timer.value_append]
  have hstep := Machine.inStep_of_timer hthen
  refine ⟨hstep, fun x hx random => ?_⟩
  rw [Machine.reg_of_executes_readDelay hx random]
  exact hstep.delay

set_option maxRecDepth 100000 in
/-- A program stores 3 in both timers.  There are two ticks, and seven cycles of a paused machine,
before it reads the delay timer in the second cycle of a run. -/
theorem timers_count_ticks_through_pause :
    let e : Entropy := ⟨fun _ => 0, 0⟩
    let ops : List Operation :=
      [.edit (.overwrite 0x200 [0x60, 0x03, 0xf0, 0x15, 0xf0, 0x18, 0x61, 0x09, 0xf1, 0x07]),
        .run 3, .tick, .togglePause, .run 7, .tick, .togglePause]
    let starts := ((powerOn {} e).performAll ops).starts (.run 2)
    ∃ hi : 1 < starts.length, starts[1].Executes (.misc .readDelay 1) ∧
      ((starts[1].cycle 0).state.reg 1).toNat = 3 - 2 := by
  intro e ops starts
  let log := (powerOn {} e).timerLog ops ++ (starts.take 1).flatMap Machine.timerEvents
  have h : ∃ hi : 1 < starts.length, starts[1].Executes (.misc .readDelay 1) ∧
      Timer.delay.stored log = 3 ∧ Timer.delay.ticksSince log = 2 := by
    decide +kernel
  obtain ⟨hi, hread, hstored, hticks⟩ := h
  obtain ⟨-, hvalue⟩ := (timers_count_ticks {} e ops).2 (.run 2) 1 hi
  have hreg := hvalue 1 hread 0
  have hless : (Timer.delay.stored log).toNat - Timer.delay.ticksSince log = 3 - 2 := by
    rw [hstored, hticks]
    rfl
  exact ⟨hi, hread, hreg.trans hless⟩

end Console

end Chip8
