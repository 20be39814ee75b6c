import Chip8.Machine.Console
import Chip8.Proofs.Machine.Frame

/-!
# Runs of operations

Whatever is done to a console is a list of operations, done one after another and whatever each of
them answers.  Every state that a machine can get into is what such a list leaves of the state at
power-on.

## What is here

* `Console.powerOn` — a console at power-on, with its dialect and its supply of random bytes.
* `Console.performAll` — the console after a list of operations, and `Console.answers`, what they
  answer.
* `Console.performAll_induction` — what one operation preserves, a list of them does.
* `Console.Reached` — a console that a list of operations leads to from power-on.
* `Console.Throughout` — something is so whenever an operation of a list is about to be performed,
  and `Console.performAll_induction_of`, the induction that may use it.
* `Console.starts` — the machines with which the cycles of an operation begin, and
  `getElem_runStarts`, which machines these are; `Console.Executes`, the instructions that an
  operation executes; `Console.executed` lists them.
* `Operation.isRoutine` — what is done to a machine while a program simply runs.
-/

set_option autoImplicit false

namespace Chip8

/-- What goes on while a program simply runs: cycles, ticks and keys. -/
def Operation.isRoutine : Operation → Bool
  | .cycle | .run _ | .tick | .press _ | .release _ => true
  | _ => false

theorem Answer.ofResult_eq_done_iff {r : Except Fault Unit} : ofResult r = .done ↔ r = .ok () := by
  cases r <;> simp [ofResult]

theorem Answer.ofResult_eq_failed_iff {r : Except Fault Unit} {f : Fault} :
    ofResult r = .failed f ↔ r = .error f := by
  cases r <;> simp [ofResult]

namespace Console

/-- A console at power-on. -/
def powerOn (d : Dialect) (e : Entropy) : Console := ⟨.initial d, e⟩

/-- The console after a list of operations. -/
def performAll (c : Console) : List Operation → Console
  | [] => c
  | op :: ops => (c.perform op).state.performAll ops

/-- What the operations of a list answer. -/
def answers (c : Console) : List Operation → List Answer
  | [] => []
  | op :: ops => (c.perform op).result :: (c.perform op).state.answers ops

/-- **What one operation preserves, a run preserves.** -/
theorem performAll_induction {motive : Console → Prop} {c : Console} (start : motive c)
    (step : ∀ c op, motive c → motive (c.perform op).state) (ops : List Operation) :
    motive (c.performAll ops) := by
  induction ops generalizing c with
  | nil => exact start
  | cons op ops ih => exact ih (step c op start)

/-- Some list of operations leads from power-on to this console. -/
def Reached (c : Console) : Prop := ∃ d e ops, c = (powerOn d e).performAll ops

/-- What one cycle preserves, a run of cycles preserves. -/
theorem run_induction {motive : Console → Prop} {c : Console} (start : motive c)
    (step : ∀ c, motive c → motive c.cycle.state) (n : Nat) : motive (c.run n).state := by
  induction n generalizing c with
  | zero => exact start
  | succ n ih =>
    rw [run_succ]
    split
    · exact ih (step c start)
    · exact step c start

/-! ## Runs on which something is so -/

/-- Whenever an operation of the list is about to be performed, it and the console are as `P`
says. -/
def Throughout (P : Console → Operation → Prop) (c : Console) : List Operation → Prop
  | [] => True
  | op :: ops => P c op ∧ (c.perform op).state.Throughout P ops

instance decidableThroughout {P : Console → Operation → Prop} [∀ c op, Decidable (P c op)] :
    ∀ (c : Console) (ops : List Operation), Decidable (c.Throughout P ops)
  | _, [] => inferInstanceAs (Decidable True)
  | c, op :: ops =>
    have := decidableThroughout (P := P) (c.perform op).state ops
    inferInstanceAs (Decidable (P c op ∧ (c.perform op).state.Throughout P ops))

theorem Throughout.imp {P Q : Console → Operation → Prop} {c : Console} {ops : List Operation}
    (h : c.Throughout P ops) (hPQ : ∀ c op, P c op → Q c op) : c.Throughout Q ops := by
  induction ops generalizing c with
  | nil => trivial
  | cons op ops ih => exact ⟨hPQ c op h.1, ih h.2⟩

theorem throughout_of_forall {P : Console → Operation → Prop} {c : Console} {ops : List Operation}
    (h : ∀ c op, P c op) : c.Throughout P ops := by
  induction ops generalizing c with
  | nil => trivial
  | cons op ops ih => exact ⟨h c op, ih⟩

theorem throughout_iff_forall_mem {Q : Operation → Prop} {c : Console} {ops : List Operation} :
    c.Throughout (fun _ op => Q op) ops ↔ ∀ op ∈ ops, Q op := by
  induction ops generalizing c with
  | nil => exact ⟨fun _ _ h => absurd h List.not_mem_nil, fun _ => trivial⟩
  | cons op ops ih => rw [Throughout, ih, List.forall_mem_cons]

/-- What an operation preserves where `P` says so, a run on which `P` always says so preserves. -/
theorem performAll_induction_of {P : Console → Operation → Prop} {motive : Console → Prop}
    {c : Console} {ops : List Operation} (h : c.Throughout P ops) (start : motive c)
    (step : ∀ c op, P c op → motive c → motive (c.perform op).state) :
    motive (c.performAll ops) := by
  induction ops generalizing c with
  | nil => exact start
  | cons op ops ih => exact ih h.2 (step c op h.1 start)

/-! ## What a run executes -/

/-- The machines with which the cycles of a run begin. -/
def runStarts : Nat → Console → List Machine
  | 0, _ => []
  | n + 1, c => c.machine :: if goesOn c.cycle.result then runStarts n c.cycle.state else []

/-- A cycle of a run begins where a run of the cycles before it ends. -/
theorem getElem_runStarts {c : Console} {n i : Nat} (hi : i < (c.runStarts n).length) :
    (c.runStarts n)[i] = (c.run i).state.machine ∧ (c.runStarts n).take i = c.runStarts i := by
  induction n generalizing c i with
  | zero => exact absurd hi (Nat.not_lt_zero i)
  | succ n ih =>
    cases i with
    | zero => exact ⟨rfl, rfl⟩
    | succ i =>
      by_cases hg : goesOn c.cycle.result = true
      · simp only [runStarts, if_pos hg, List.length_cons, Nat.add_lt_add_iff_right] at hi
        obtain ⟨hstart, htake⟩ := ih hi
        simp only [runStarts, run_succ, if_pos hg, List.getElem_cons_succ, List.take_succ_cons,
          htake, and_true]
        exact hstart
      · rw [runStarts, if_neg hg] at hi
        exact absurd (Nat.lt_of_succ_lt_succ hi) (Nat.not_lt_zero i)

/-- The machines with which the cycles of an operation begin. -/
def starts (c : Console) : Operation → List Machine
  | .cycle => [c.machine]
  | .run n => c.runStarts n
  | _ => []

/-- One of the cycles of the operation executes the instruction `i`. -/
def Executes (c : Console) (op : Operation) (i : Instruction) : Prop :=
  ∃ m ∈ c.starts op, m.Executes i

/-- The instructions that an operation executes. -/
def executed (c : Console) (op : Operation) : List Instruction :=
  (c.starts op).filterMap Machine.executed?

theorem mem_executed {c : Console} {op : Operation} {i : Instruction} :
    i ∈ c.executed op ↔ c.Executes op i := by
  simp only [executed, List.mem_filterMap, Machine.executed?_eq_some_iff, Executes]

instance {c : Console} {op : Operation} {P : Instruction → Prop} [DecidablePred P] :
    Decidable (∀ i, c.Executes op i → P i) :=
  decidable_of_iff (∀ i ∈ c.executed op, P i) (by simp only [mem_executed])

/-- What a cycle preserves if it begins with a machine that is `Q`, a run preserves if all its
cycles do. -/
theorem run_induction_of {Q : Machine → Prop} {motive : Console → Prop} {c : Console} {n : Nat}
    (h : ∀ m ∈ c.runStarts n, Q m) (start : motive c)
    (step : ∀ c, Q c.machine → motive c → motive c.cycle.state) : motive (c.run n).state := by
  induction n generalizing c with
  | zero => exact start
  | succ n ih =>
    have hc : motive c.cycle.state := step c (h _ List.mem_cons_self) start
    rw [run_succ]
    by_cases hg : goesOn c.cycle.result = true
    · rw [if_pos hg]
      rw [runStarts, if_pos hg] at h
      exact ih (fun m hm => h m (List.mem_cons_of_mem _ hm)) hc
    · rw [if_neg hg]
      exact hc

end Console

end Chip8
