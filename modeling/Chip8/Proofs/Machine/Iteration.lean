import Mathlib.Logic.Function.Iterate
import Chip8.Proofs.Machine.Faults
import Chip8.Proofs.Machine.Runs

/-!
# Runs are cycles in a row

A run of `n` cycles makes one cycle after the other until `n` are made or one of them meets a fault
that cannot be stepped over.  A paused machine has no way to go on by itself, so the cycles of a run
that count come first, and after them the machine stands still.

## What is here

* `Console.advance` — the console after one cycle, whatever the cycle answers.
* `Console.cycle_of_paused`, `Console.state_cycle_of_fatal` — the two ways in which a cycle changes
  nothing, the supply of random bytes included.
* `Console.run_add` — a run in two parts.
* `Console.run_ok`, `Console.run_error` — a run as cycles in a row, by its result.
* `Console.exists_cycles_iterate` — how many of the cycles in a row are counted.
* `Console.run_iterates` — all of it together.
-/

set_option autoImplicit false

namespace Chip8

namespace Console

variable {c : Console} {f : Fault} {m n : Nat}

/-! ## Single cycles -/

/-- The console after one cycle, whatever the cycle answers. -/
def advance (c : Console) : Console := c.cycle.state

theorem goesOn_iff {r : Except Fault Unit} :
    goesOn r = true ↔ r = .ok () ∨ ∃ w a, r = .error (.unknownOpcode w a) := by
  cases r with
  | ok u => exact ⟨fun _ => .inl rfl, fun _ => rfl⟩
  | error f => cases f <;> simp [goesOn, Fault.isRecoverable]

theorem goesOn_error : goesOn (.error f) = f.isRecoverable := rfl

/-- A cycle of a paused machine does nothing. -/
theorem cycle_of_paused (h : c.machine.flags.isPaused = true) : c.cycle = .done c := by
  have hr : c.machine.takesRandom = false := by
    rw [Machine.takesRandom, h]
    rfl
  rw [cycle, Machine.cycle, if_pos h, hr]
  rfl

/-- A cycle with a fault that cannot be stepped over leaves the console as it was. -/
theorem state_cycle_of_fatal (h : c.cycle.result = .error f) (hf : f.isRecoverable = false) :
    c.cycle.state = c := by
  have hm : (c.machine.cycle c.entropy.next).state = c.machine :=
    (Machine.state_of_unrecoverable h hf).1
  have hr : c.machine.takesRandom = false := by
    cases hr : c.machine.takesRandom with
    | false => rfl
    | true =>
      obtain ⟨x, b, hex⟩ := Machine.executes_of_takesRandom hr
      have hok : c.cycle.result = .ok () := hex.succeeds _
      rw [h] at hok
      cases hok
  rw [cycle, hr]
  exact congrArg (Console.mk · c.entropy) hm

/-- A cycle after which a run goes on is counted, unless the machine is paused. -/
theorem cycles_of_goesOn (hp : c.machine.flags.isPaused = false)
    (h : goesOn c.cycle.result = true) :
    c.cycle.state.machine.cycles = c.machine.cycles + 1 := by
  obtain hok | ⟨w, a, herr⟩ := goesOn_iff.1 h
  · obtain ⟨i, hi⟩ := Machine.exists_executes hp hok
    exact Machine.cycles_of_executes hi _
  · obtain ⟨-, -, -, hs⟩ := Machine.state_of_unknownOpcode herr
    exact congrArg Machine.cycles hs

/-! ## Runs, from their first cycle -/

theorem run_of_goesOn (h : goesOn c.cycle.result = true) :
    c.run (n + 1) = (c.cycle.state.run n).after c.cycle.events := by
  rw [run_succ, if_pos h]

theorem run_of_not_goesOn (h : ¬ goesOn c.cycle.result = true) : c.run (n + 1) = c.cycle := by
  rw [run_succ, if_neg h]

/-- Where one cycle changes nothing, no run does. -/
theorem state_run_of_state_cycle (h : c.cycle.state = c) (n : Nat) : (c.run n).state = c := by
  induction n with
  | zero => rfl
  | succ n ih =>
    by_cases hg : goesOn c.cycle.result = true
    · rw [run_of_goesOn hg, h]
      exact ih
    · rw [run_of_not_goesOn hg]
      exact h

/-- A run reports a fatal fault of its first cycle. -/
theorem result_run_of_fatal (h : c.cycle.result = .error f) (hf : f.isRecoverable = false)
    (n : Nat) : (c.run (n + 1)).result = .error f := by
  rw [run_of_not_goesOn (by rw [h, goesOn_error, hf]; decide)]
  exact h

/-- **A run in two parts**: the second part is made if the first one has succeeded. -/
theorem run_add (m n : Nat) (c : Console) :
    c.run (m + n) = match (c.run m).result with
      | .ok () => ((c.run m).state.run n).after (c.run m).events
      | .error _ => c.run m := by
  induction m generalizing c with
  | zero => rw [Nat.zero_add, run_zero]; rfl
  | succ m ih =>
    rw [Nat.add_right_comm]
    by_cases hg : goesOn c.cycle.result = true
    · rw [run_of_goesOn hg, run_of_goesOn hg, ih]
      have hres : ((c.cycle.state.run m).after c.cycle.events).result =
          (c.cycle.state.run m).result := rfl
      rw [hres]
      cases (c.cycle.state.run m).result with
      | ok u => exact Outcome.after_after _ _ _
      | error f => rfl
    · rw [run_of_not_goesOn hg, run_of_not_goesOn hg]
      cases hr : c.cycle.result with
      | ok u => exact absurd (by rw [hr]; rfl) hg
      | error f => rfl

/-- A run that succeeds has made all its cycles. -/
theorem run_ok (h : (c.run n).result = .ok ()) :
    (c.run n).state = advance^[n] c ∧
      ∀ j < n, goesOn (advance^[j] c).cycle.result = true := by
  induction n generalizing c with
  | zero => exact ⟨rfl, fun j hj => absurd hj (Nat.not_lt_zero j)⟩
  | succ n ih =>
    by_cases hg : goesOn c.cycle.result = true
    · rw [run_of_goesOn hg] at h ⊢
      obtain ⟨hstate, hall⟩ := ih h
      refine ⟨hstate, fun j hj => ?_⟩
      cases j with
      | zero => exact hg
      | succ j => exact hall j (Nat.lt_of_succ_lt_succ hj)
    · rw [run_of_not_goesOn hg] at h
      exact absurd (by rw [h]; rfl) hg

/-- A run that fails has made some cycles after which it went on, and then one that failed and left
nothing behind. -/
theorem run_error (h : (c.run n).result = .error f) :
    f.isRecoverable = false ∧ ∃ k < n,
      (∀ j < k, goesOn (advance^[j] c).cycle.result = true) ∧
      (advance^[k] c).cycle.result = .error f ∧ (c.run n).state = advance^[k] c := by
  induction n generalizing c with
  | zero => cases h
  | succ n ih =>
    by_cases hg : goesOn c.cycle.result = true
    · rw [run_of_goesOn hg] at h ⊢
      obtain ⟨hf, k, hk, hall, herr, hstate⟩ := ih h
      refine ⟨hf, k + 1, Nat.succ_lt_succ hk, fun j hj => ?_, herr, hstate⟩
      cases j with
      | zero => exact hg
      | succ j => exact hall j (Nat.lt_of_succ_lt_succ hj)
    · rw [run_of_not_goesOn hg] at h ⊢
      rw [h, goesOn_error, Bool.not_eq_true] at hg
      exact ⟨hg, 0, Nat.succ_pos n, fun j hj => absurd hj (Nat.not_lt_zero j), h,
        state_cycle_of_fatal h hg⟩

/-! ## Counting -/

/-- Of `n` cycles in a row the first `k` are counted, and if that is not all of them, the machine is
paused in the end. -/
theorem exists_cycles_iterate (hall : ∀ j < n, goesOn (advance^[j] c).cycle.result = true)
    (hcount : c.machine.cycles.toNat + n < UInt64.size) :
    ∃ k ≤ n, (advance^[n] c).machine.cycles.toNat = c.machine.cycles.toNat + k ∧
      (k < n → (advance^[n] c).machine.flags.isPaused = true) := by
  induction n with
  | zero => exact ⟨0, Nat.le_refl 0, rfl, fun h => absurd h (Nat.lt_irrefl 0)⟩
  | succ n ih =>
    obtain ⟨k, hk, hcycles, hpaused⟩ := ih (fun j hj => hall j (by omega)) (by omega)
    rw [Function.iterate_succ_apply']
    cases hp : (advance^[n] c).machine.flags.isPaused with
    | true =>
      have hsame : advance (advance^[n] c) = advance^[n] c := by
        rw [advance, cycle_of_paused hp]
        rfl
      rw [hsame]
      exact ⟨k, by omega, hcycles, fun _ => hp⟩
    | false =>
      have hkn : ¬ k < n := by
        intro hlt
        rw [hpaused hlt] at hp
        cases hp
      have hnext := cycles_of_goesOn hp (hall n (Nat.lt_succ_self n))
      refine ⟨k + 1, by omega, ?_, fun h => by omega⟩
      rw [advance, hnext, UInt64.toNat_add, hcycles, show (1 : UInt64).toNat = 1 from rfl]
      rw [UInt64.size] at hcount
      omega

/-- **A run is its cycles in a row.**  A run of `m + n` cycles is a run of `m` and then, if that one
succeeded, a run of `n`.  A run that succeeds has made all its cycles, and those that are not
counted were made by a machine that is still paused in the end.  A run that fails does so with a
fault that cannot be stepped over: it has made `k` cycles that succeeded or stepped over a word, all
of them counted, and the cycle that fails comes next and has left nothing behind. -/
theorem run_iterates (c : Console) (m n : Nat)
    (hcount : c.machine.cycles.toNat + (m + n) < UInt64.size) :
    (c.run (m + n) = match (c.run m).result with
      | .ok () => ((c.run m).state.run n).after (c.run m).events
      | .error _ => c.run m) ∧
    ((c.run n).result = .ok () →
      (c.run n).state = advance^[n] c ∧
      ∃ k ≤ n, (c.run n).state.machine.cycles.toNat = c.machine.cycles.toNat + k ∧
        (k < n → (c.run n).state.machine.flags.isPaused = true)) ∧
    ∀ f, (c.run n).result = .error f →
      f.isRecoverable = false ∧ ∃ k < n,
        (∀ j < k, (advance^[j] c).cycle.result = .ok () ∨
          ∃ w a, (advance^[j] c).cycle.result = .error (.unknownOpcode w a)) ∧
        (advance^[k] c).cycle.result = .error f ∧ (c.run n).state = advance^[k] c ∧
        (c.run n).state.machine.cycles.toNat = c.machine.cycles.toNat + k := by
  refine ⟨run_add m n c, fun hok => ?_, fun f herr => ?_⟩
  · obtain ⟨hstate, hall⟩ := run_ok hok
    rw [hstate]
    exact ⟨rfl, exists_cycles_iterate hall (by omega)⟩
  · obtain ⟨hf, k, hk, hall, hnext, hstate⟩ := run_error herr
    obtain ⟨k', hk', hcycles, hpaused⟩ := exists_cycles_iterate hall (by omega)
    -- a paused machine would not have failed in the next cycle
    have hkk : k' = k := by
      refine Nat.le_antisymm hk' (Nat.le_of_not_lt fun hlt => ?_)
      rw [cycle_of_paused (hpaused hlt)] at hnext
      cases hnext
    rw [hkk] at hcycles
    rw [hstate]
    exact ⟨hf, k, hk, fun j hj => goesOn_iff.1 (hall j hj), hnext, rfl, hcycles⟩

set_option maxRecDepth 100000 in
/-- A program whose first word is none of the instructions and whose second one is a
return: a run of one cycle steps over the first word, and a run of three fails at the
second one after one cycle. -/
theorem run_iterates_to_underflow :
    let c := (powerOn {} ⟨fun _ => 0, 0⟩).performAll [.edit (.write 0x203 0xee)]
    c.machine.cycles.toNat + (1 + 3) < UInt64.size ∧
      (c.run 1).result = .ok () ∧ (c.run 1).state = advance^[1] c ∧
      (c.run 3).result = .error (.stackUnderflow 0x202) ∧
      ∃ k < 3, (advance^[k] c).cycle.result = .error (.stackUnderflow 0x202) ∧
        (c.run 3).state = advance^[k] c ∧
        (c.run 3).state.machine.cycles.toNat = c.machine.cycles.toNat + k := by
  intro c
  have h : c.machine.cycles.toNat + (1 + 3) < UInt64.size ∧
      Answer.ofResult (c.run 1).result = .done ∧
      Answer.ofResult (c.run 3).result = .failed (.stackUnderflow 0x202) := by
    decide +kernel
  obtain ⟨hcount, hdone, hfailed⟩ := h
  -- nothing from here on is to be evaluated
  clear_value c
  have hok := Answer.ofResult_eq_done_iff.1 hdone
  have herr := Answer.ofResult_eq_failed_iff.1 hfailed
  obtain ⟨-, hone, -⟩ := run_iterates c 3 1 hcount
  obtain ⟨-, -, hthree⟩ := run_iterates c 1 3 hcount
  obtain ⟨-, k, hk, -, hnext, hstate, hcycles⟩ := hthree _ herr
  exact ⟨hcount, hok, (hone hok).1, herr, k, hk, hnext, hstate, hcycles⟩

end Console

end Chip8
