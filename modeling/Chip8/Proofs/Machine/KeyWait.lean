import Chip8.Proofs.Machine.Keys

/-!
# Waiting for a key

An instruction makes the machine wait for a key and notes the register that is to take its number.
The machine then stands still until a key goes down that was up; a key that was held all along is no
news and has to be released first.  The press that ends the wait fills the register, and from then
on presses and releases reach no register, until the program waits again.

## What is here

* `Console.freshPress` — the operation presses a key that exists and is not held.
* `Console.machine_perform_of_waiting` — the step: while the machine waits, nothing but a fresh
  press changes more than timers, keys and the user's pause.
* `Console.keyWait_perform`, `Console.keyWait_performAll` — the step after the wait, and the run:
  only one instruction begins another wait.
* `Console.keyWait_protocol` — the run: a wait from its beginning to its end and beyond.
-/

set_option autoImplicit false

namespace Chip8

namespace Console

variable {c : Console} {op : Operation}

/-- The operation presses a key that exists and is not held. -/
def freshPress (c : Console) : Operation → Bool
  | .press k => decide (k < 16) && !c.machine.held k
  | _ => false

theorem freshPress_eq_false_iff {k : Nat} :
    c.freshPress (.press k) = false ↔ ¬ (k < 16 ∧ c.machine.held k = false) := by
  rw [freshPress, ← Bool.not_eq_true, Bool.and_eq_true, decide_eq_true_eq, Bool.not_eq_true']

/-! ## While the machine waits -/

/-- **While the machine waits, only a fresh press does more than change timers, keys and the user's
pause.** -/
theorem machine_perform_of_waiting (hw : c.machine.flags.keyWait = true)
    (hop : op.isRoutine = true ∨ op = .togglePause) (hfresh : c.freshPress op = false) :
    ∃ pause delay sound keys, (c.perform op).state.machine =
      { c.machine with flags := { c.machine.flags with pause }, delay, sound, keys } := by
  obtain hop | rfl := hop
  · have hp : c.machine.flags.isPaused = true := by
      rw [Flags.isPaused, hw, Bool.or_true]
    have hcycle : c.cycle.state = c := congrArg Outcome.state (cycle_of_paused hp)
    have hpress : ∀ k, op = .press k →
        ∃ keys, (c.machine.press k).state = { c.machine with keys } := by
      rintro k rfl
      rw [Machine.press_of_stale (freshPress_eq_false_iff.1 hfresh)]
      exact ⟨_, rfl⟩
    obtain ⟨delay, sound, keys, hnext⟩ := machine_perform_of_state_cycle hcycle hpress hop
    exact ⟨_, delay, sound, keys, hnext⟩
  · exact ⟨_, _, _, _, rfl⟩

/-- A machine that waits goes on waiting, for the same register and at the same place, until a fresh
press. -/
theorem machine_performAll_of_waiting {ops : List Operation}
    (hw : c.machine.flags.keyWait = true)
    (hops : c.Throughout (fun c op =>
      (op.isRoutine = true ∨ op = .togglePause) ∧ c.freshPress op = false) ops) :
    ∃ pause delay sound keys, (c.performAll ops).machine =
      { c.machine with flags := { c.machine.flags with pause }, delay, sound, keys } := by
  refine performAll_induction_of (motive := fun c' => ∃ pause delay sound keys, c'.machine =
    { c.machine with flags := { c.machine.flags with pause }, delay, sound, keys }) hops
    ⟨_, _, _, _, rfl⟩ ?_
  rintro c' op ⟨hop, hfresh⟩ ⟨pause, delay, sound, keys, hc'⟩
  have hw' : c'.machine.flags.keyWait = true := by
    rw [hc']
    exact hw
  obtain ⟨pause', delay', sound', keys', hnext⟩ := machine_perform_of_waiting hw' hop hfresh
  rw [hc'] at hnext
  exact ⟨pause', delay', sound', keys', hnext⟩

/-! ## After the wait -/

/-- **Only one instruction begins a key wait.** -/
theorem keyWait_perform (hop : op.isRoutine = true ∨ op = .togglePause)
    (hx : ∀ x, ¬ c.Executes op (.misc .waitKey x)) (h : c.machine.flags.keyWait = false) :
    (c.perform op).state.machine.flags.keyWait = false := by
  obtain hop | rfl := hop
  · cases op with
    | cycle =>
      refine Machine.keyWait_cycle h _ fun x hex => hx x ?_
      exact ⟨c.machine, List.mem_singleton_self _, hex⟩
    | run n =>
      refine run_induction_of (Q := fun m => ∀ x, ¬ m.Executes (.misc .waitKey x))
        (motive := fun c => c.machine.flags.keyWait = false) (fun m hm x hex => hx x ?_) h
        (fun c hQ h => Machine.keyWait_cycle h _ hQ)
      exact ⟨m, hm, hex⟩
    | tick => exact h
    | press k =>
      obtain ⟨keys, hkeys⟩ := Machine.state_press h k
      rw [show (c.perform (.press k)).state.machine = _ from hkeys]
      exact h
    | release k =>
      obtain ⟨keys, hkeys⟩ := c.machine.state_release k
      rw [show (c.perform (.release k)).state.machine = _ from hkeys]
      exact h
    | load | setRegister | reset | togglePause | setKeyWait | setDialect | edit => cases hop
  · exact h

/-- A program that waits for no key waits for none until it executes that instruction. -/
theorem keyWait_performAll {ops : List Operation}
    (hops : c.Throughout (fun c op => (op.isRoutine = true ∨ op = .togglePause) ∧
      ∀ x, ¬ c.Executes op (.misc .waitKey x)) ops)
    (h : c.machine.flags.keyWait = false) :
    (c.performAll ops).machine.flags.keyWait = false :=
  performAll_induction_of (motive := fun c => c.machine.flags.keyWait = false) hops h
    fun _ _ hop h => keyWait_perform hop.1 hop.2 h

/-- A press or a release while nothing waits for it reaches no register. -/
theorem registers_perform_key (h : c.machine.flags.keyWait = false) (k : Nat) :
    (c.perform (.press k)).state.machine.registers = c.machine.registers ∧
      (c.perform (.release k)).state.machine.registers = c.machine.registers := by
  obtain ⟨keys, hpress⟩ := Machine.state_press h k
  obtain ⟨keys', hrelease⟩ := c.machine.state_release k
  rw [show (c.perform (.press k)).state.machine = _ from hpress,
    show (c.perform (.release k)).state.machine = _ from hrelease]
  exact ⟨rfl, rfl⟩

/-! ## The protocol -/

/-- **The protocol of a key wait.**  The instruction at the program counter `p` makes the machine
wait for register `x`.  As long as no fresh key goes down, in whatever order there are cycles, runs,
ticks, presses, releases and pauses, the machine still waits at `p + 2`, and nothing but timers,
keys and the user's pause has changed since.  A key that was held when the wait began and is not
held any more was released meanwhile, so it ends the wait only as a key pressed again.  The press of
a fresh key is answered with yes, marks the key as held, puts its number into register `x`, ends the
wait and changes nothing else.  After that no press or release changes a register, as long as the
instruction is not executed again. -/
theorem keyWait_protocol {x : UInt64} (hwait : c.machine.Executes (.misc .waitKey x))
    {ops : List Operation}
    (hops : c.cycle.state.Throughout (fun c' op =>
      (op.isRoutine = true ∨ op = .togglePause) ∧ c'.freshPress op = false) ops) :
    let now := c.cycle.state.performAll ops
    (∃ pause delay sound keys, now.machine =
      { c.machine with
        flags := { c.machine.flags with pause, keyWait := true }, pc := c.machine.pc + 2,
        keyTarget := x, cycles := c.machine.cycles + 1, delay, sound, keys }) ∧
    (∀ k, c.machine.held k = true → now.machine.held k = false → .release k ∈ ops) ∧
    ∀ k < 16, now.machine.held k = false →
      let ended := now.perform (.press k)
      x.toNat < 16 ∧ ended.result = .flag true ∧
      ended.state = { now with
        machine := { (now.machine.setKey k true).setReg x.toNat (.ofNat k) with
          flags := { now.machine.flags with keyWait := false } } } ∧
      ∀ later, ended.state.Throughout (fun c' op =>
          (op.isRoutine = true ∨ op = .togglePause) ∧
            ∀ y, ¬ c'.Executes op (.misc .waitKey y)) later →
        let after := ended.state.performAll later
        ∀ j, (after.perform (.press j)).state.machine.registers = after.machine.registers ∧
          (after.perform (.release j)).state.machine.registers = after.machine.registers := by
  intro now
  have hstart : c.cycle.state.machine = _ :=
    Machine.state_of_executes_waitKey hwait c.entropy.next
  have hw : c.cycle.state.machine.flags.keyWait = true := by rw [hstart]
  obtain ⟨pause, delay, sound, keys, hnow⟩ := machine_performAll_of_waiting hw hops
  rw [hstart] at hnow
  refine ⟨⟨pause, delay, sound, keys, hnow⟩, fun k hheld hfree => ?_, fun k hk hfree => ?_⟩
  · have hreset : .reset ∉ ops := by
      intro hmem
      have hop := throughout_iff_forall_mem.1 (hops.imp fun _ _ h => h.1) _ hmem
      exact absurd hop (by decide)
    exact release_mem_of_held hreset ((held_cycle c k).trans hheld) hfree
  · intro ended
    have hx : x.toNat < 16 := Instruction.fits_of_decode? (Machine.executes_iff.1 hwait).2.2.1
    have hwnow : now.machine.flags.keyWait = true := by rw [hnow]
    have htarget : now.machine.keyTarget = x := by rw [hnow]
    have hpress := Machine.press_of_waiting hk hfree hwnow
    rw [htarget] at hpress
    have hended : ended = now.settle .flag _ := congrArg (now.settle .flag) hpress
    rw [hended]
    refine ⟨hx, rfl, rfl, fun later hlater => ?_⟩
    intro after j
    exact registers_perform_key (keyWait_performAll hlater rfl) j

set_option maxRecDepth 100000 in
/-- Key 5 is held when a program begins to wait for register 3.  Pressing it again is no news, and
neither is a key that does not exist; once released, it ends the wait. -/
theorem keyWait_protocol_of_held_key :
    let c := (powerOn {} ⟨fun _ => 0, 0⟩).performAll
      [.press 5, .edit (.overwrite 0x200 [0xf3, 0x0a])]
    let ops : List Operation := [.press 5, .cycle, .togglePause, .press 16, .release 5, .run 2]
    let now := c.cycle.state.performAll ops
    let ended := now.perform (.press 5)
    let after := ended.state.performAll [.release 5]
    c.machine.Executes (.misc .waitKey 3) ∧
      c.cycle.state.Throughout (fun c' op =>
        (op.isRoutine = true ∨ op = .togglePause) ∧ c'.freshPress op = false) ops ∧
      c.machine.held 5 = true ∧ now.machine.held 5 = false ∧ now.machine.flags.keyWait = true ∧
      ended.result = .flag true ∧ ended.state.machine.reg 3 = 5 ∧
      (after.perform (.press 7)).state.machine.registers = after.machine.registers := by
  intro c ops now ended after
  have h : c.machine.Executes (.misc .waitKey 3) ∧
      c.cycle.state.Throughout (fun c' op =>
        (op.isRoutine = true ∨ op = .togglePause) ∧ c'.freshPress op = false) ops ∧
      c.machine.held 5 = true ∧ now.machine.held 5 = false := by
    decide +kernel
  obtain ⟨hwait, hops, hheld, hfree⟩ := h
  -- nothing from here on is to be evaluated
  clear_value c
  obtain ⟨⟨pause, delay, sound, keys, hnow⟩, -, hpress⟩ := keyWait_protocol hwait hops
  obtain ⟨-, hresult, hstate, hlater⟩ := hpress 5 (by decide) hfree
  have hkeys := hlater [.release 5]
    ⟨⟨.inl rfl, fun y ⟨m, hm, _⟩ => absurd hm List.not_mem_nil⟩, trivial⟩ 7
  dsimp only [after, ended, now]
  refine ⟨hwait, hops, hheld, hfree, by rw [hnow], hresult, ?_, hkeys.1⟩
  rw [hstate]
  exact (Machine.reg_congr rfl 3).trans
    ((Machine.reg_setReg (now.machine.setKey 5 true) 3 3 5).trans (if_pos ⟨rfl, by decide⟩))

end Console

end Chip8
