import Chip8.Proofs.Machine.Keys

/-!
# Machines that are stuck

After a fault that cannot be stepped over the machine is as it was, so the next cycle meets the same
fault.  Whether and how a cycle fails depends neither on the timers nor on the keys; and a machine
that fails is not paused, so no program waits for a key and no press reaches a register.  Time and
keys alone cannot help such a machine.

## What is here

* `Console.machine_perform_of_fatal` — the step: on a machine that is stuck, cycles and runs change
  nothing, and ticks and keys nothing but timers and keys.
* `Console.fatal_fault_permanent` — the run: a machine that is stuck remains so, with the same
  fault.
-/

set_option autoImplicit false

namespace Chip8

namespace Console

variable {c : Console} {f : Fault} {op : Operation}

/-- How the next cycle fails does not depend on timers and keys. -/
theorem result_cycle_congr {delay sound : UInt8} {keys : Vector Bool 16} {c' : Console}
    (hc : c'.machine = { c.machine with delay, sound, keys }) :
    c'.cycle.result = c.cycle.result := by
  have hfault : c'.machine.cycleFault = c.machine.cycleFault := by
    rw [hc]
    rfl
  have hresult := c'.machine.result_cycle c'.entropy.next
  rw [hfault, ← c.machine.result_cycle c.entropy.next] at hresult
  exact hresult

/-- **On a machine that is stuck** cycles and runs change nothing, and ticks and keys nothing but
timers and keys. -/
theorem machine_perform_of_fatal (h : c.cycle.result = .error f) (hf : f.isRecoverable = false)
    (hop : op.isRoutine = true) :
    ∃ delay sound keys, (c.perform op).state.machine = { c.machine with delay, sound, keys } := by
  have hw : c.machine.flags.keyWait = false := by
    have hp := Machine.awake_of_cycleFault (Machine.result_cycle_eq_error_iff.1 h)
    rw [Flags.isPaused, Bool.or_eq_false_iff] at hp
    exact hp.2
  exact machine_perform_of_state_cycle (state_cycle_of_fatal h hf)
    (fun k _ => Machine.state_press hw k) hop

/-- **A fault that cannot be stepped over is permanent.**  Whatever cycles, runs, ticks and keys
follow, in whatever order, nothing of the machine but timers and keys has changed, and a cycle, or a
run of at least one cycle, answers with the same fault again; so does each one on the way, which
follows a shorter list. -/
theorem fatal_fault_permanent (h : c.cycle.result = .error f) (hf : f.isRecoverable = false)
    {ops : List Operation} (hops : ∀ op ∈ ops, op.isRoutine = true) :
    let now := c.cycle.state.performAll ops
    (∃ delay sound keys, now.machine = { c.machine with delay, sound, keys }) ∧
    (now.perform .cycle).result = .failed f ∧
    ∀ n, 0 < n → (now.perform (.run n)).result = .failed f := by
  intro now
  have hnow : ∃ delay sound keys, now.machine = { c.machine with delay, sound, keys } := by
    refine performAll_induction_of (motive := fun c' =>
      ∃ delay sound keys, c'.machine = { c.machine with delay, sound, keys })
      (throughout_iff_forall_mem.2 hops) ?_ ?_
    · rw [state_cycle_of_fatal h hf]
      exact ⟨_, _, _, rfl⟩
    · rintro c' op hop ⟨delay, sound, keys, hc'⟩
      have h' : c'.cycle.result = .error f := (result_cycle_congr hc').trans h
      obtain ⟨delay', sound', keys', hnext⟩ := machine_perform_of_fatal h' hf hop
      rw [hc'] at hnext
      exact ⟨delay', sound', keys', hnext⟩
  obtain ⟨delay, sound, keys, hmachine⟩ := hnow
  have hcycle : now.cycle.result = .error f := (result_cycle_congr hmachine).trans h
  refine ⟨⟨delay, sound, keys, hmachine⟩, Answer.ofResult_eq_failed_iff.2 hcycle, ?_⟩
  intro n hn
  obtain ⟨n, rfl⟩ := Nat.exists_eq_succ_of_ne_zero (Nat.ne_of_gt hn)
  exact Answer.ofResult_eq_failed_iff.2 (result_run_of_fatal hcycle hf n)

set_option maxRecDepth 100000 in
/-- A program that begins with a return fails at once, and still does so after ticks, keys
and further attempts. -/
theorem fatal_fault_permanent_of_return :
    let c := (powerOn {} ⟨fun _ => 0, 0⟩).performAll [.edit (.write 0x201 0xee)]
    let ops : List Operation := [.tick, .press 5, .run 2, .cycle, .release 5, .press 16]
    let now := c.cycle.state.performAll ops
    c.cycle.result = .error (.stackUnderflow 0x200) ∧ (∀ op ∈ ops, op.isRoutine = true) ∧
      now.machine.pc = 0x200 ∧ (now.perform .cycle).result = .failed (.stackUnderflow 0x200) ∧
      (now.perform (.run 3)).result = .failed (.stackUnderflow 0x200) := by
  intro c ops now
  have h : c.machine.cycleFault = some (.stackUnderflow 0x200) ∧
      (∀ op ∈ ops, op.isRoutine = true) ∧ c.machine.pc = 0x200 := by
    decide +kernel
  obtain ⟨hfault, hops, hpc⟩ := h
  clear_value c
  have hcycle : c.cycle.result = .error (.stackUnderflow 0x200) :=
    Machine.result_cycle_eq_error_iff.2 hfault
  obtain ⟨⟨delay, sound, keys, hnow⟩, hagain, hrun⟩ := fatal_fault_permanent hcycle rfl hops
  dsimp only [now]
  exact ⟨hcycle, hops, by rw [hnow, hpc], hagain, hrun 3 (by decide)⟩

end Console

end Chip8
