import Mathlib.Data.List.Basic
import Chip8.Proofs.Machine.Iteration

/-!
# The log of a run

A cycle reports the word it fetches, and after it at most one more thing: that the word is no
instruction, or that the program waits for a key.  A cycle that fetches nothing, because the machine
is paused or there is no word, reports nothing.  So the log of a run can be written down from the
machines with which its cycles begin, and as only the last cycle of a run can fetch a word and not
count, the numbers in the log have no gap and tell how many cycles were counted.

## What is here

* `Machine.fetched?`, `Machine.skipped?`, `Machine.waiting?` — what a cycle reports, and
  `Machine.events_cycle_eq`, that this is all.
* `Console.cycle_ways` — which cycles are counted, which are reported, and after which a run goes
  on.
* `Console.fetches` — the words that are fetched in a run, each with the machine that fetches it;
  `cycles_fetches`, how they are numbered, and `length_fetches`, how many there are.
* `Console.events_run` — the events of a run, and `Console.said_run`, what of them is on one level.
* `Console.log_accounts` — the log accounts for every cycle.
-/

set_option autoImplicit false

namespace Chip8

open Text

/-! ## One cycle -/

/-- The register for which an instruction begins a key wait. -/
def Instruction.awaiting? : Instruction → Option UInt64
  | .misc .waitKey x => some x
  | _ => none

namespace Machine

variable {m : Machine} {w : UInt16}

/-- The word that the next cycle fetches, if it fetches one. -/
def fetched? (m : Machine) : Option UInt16 :=
  if m.flags.isPaused then none else m.fetch.toOption

/-- The word that the next cycle steps over because it is no instruction, and its address. -/
def skipped? (m : Machine) : Option (UInt16 × UInt16) :=
  match m.cycleFault with
  | some (.unknownOpcode w a) => some (w, a)
  | _ => none

/-- The register for which the next cycle begins a key wait. -/
def waiting? (m : Machine) : Option UInt64 := m.executed?.bind Instruction.awaiting?

/-- What the next cycle reports after the word. -/
def remarks (m : Machine) : List Event :=
  (m.skipped?.map fun (w, a) => Event.skipped w a).toList ++ (m.waiting?.map Event.waiting).toList

/-- What the next cycle reports. -/
def reports (m : Machine) : List Event :=
  match m.fetched? with
  | none => []
  | some w => .fetched m.cycles m.pc w :: m.remarks

theorem fetched?_eq_some_iff :
    m.fetched? = some w ↔ m.flags.isPaused = false ∧ m.fetch = .ok w := by
  rw [fetched?]
  cases hp : m.flags.isPaused <;> cases hf : m.fetch <;> simp [Except.toOption]

/-- Only a key wait is reported by an instruction. -/
theorem events_execute (m : Machine) (random : UInt8) (i : Instruction) :
    (m.execute random i).events = (i.awaiting?.map Event.waiting).toList := by
  cases i with
  | system op =>
    cases op with
    | clearScreen => rfl
    | ret =>
      show m.ret.events = []
      rw [ret]
      split <;> rfl
  | call a =>
    show (m.call a).events = []
    rw [call]
    split <;> rfl
  | draw x y n =>
    show (m.draw x.toNat y.toNat n.toNat).events = []
    rw [draw]
    split <;> rfl
  | key op x => cases op <;> rfl
  | misc op x =>
    cases op with
    | store =>
      show (m.storeRegisters x.toNat).events = []
      rw [storeRegisters]
      split <;> rfl
    | load =>
      show (m.loadRegisters x.toNat).events = []
      rw [loadRegisters]
      split <;> rfl
    | readDelay | waitKey | setDelay | setSound | addIndex | glyph | digits => rfl
  | jump | skipEqByte | skipNeByte | skipEq | setByte | addByte | alu | skipNe | setIndex
  | jumpOffset | random => rfl

theorem skipped?_eq_some_iff {w a : UInt16} :
    m.skipped? = some (w, a) ↔ m.cycleFault = some (.unknownOpcode w a) := by
  rw [skipped?]
  cases hf : m.cycleFault with
  | none => simp
  | some f => cases f <;> simp

/-- A machine that is about to step over a word can fetch it. -/
theorem fetched?_of_skipped? {s : UInt16 × UInt16} (h : m.skipped? = some s) :
    m.fetched? = some m.word := by
  have hf : m.cycleFault = some (.unknownOpcode s.1 s.2) := skipped?_eq_some_iff.1 h
  have hr : (m.cycle 0).result = .error (.unknownOpcode s.1 s.2) := result_cycle_eq_error_iff.2 hf
  obtain ⟨-, -, hpc, -⟩ := state_of_unknownOpcode hr
  exact fetched?_eq_some_iff.2 ⟨awake_of_cycleFault hf, fetch_of_lt hpc⟩

/-- So can one that is about to execute an instruction. -/
theorem fetched?_of_executed? {i : Instruction} (h : m.executed? = some i) :
    m.fetched? = some m.word := by
  obtain ⟨hp, hpc, -, -⟩ := executes_iff.1 (executed?_eq_some_iff.1 h)
  exact fetched?_eq_some_iff.2 ⟨hp, fetch_of_lt hpc⟩

/-- A machine that is about to fail executes nothing. -/
theorem executed?_of_cycleFault {f : Fault} (h : m.cycleFault = some f) : m.executed? = none := by
  refine Option.eq_none_iff_forall_ne_some.2 fun i hi => ?_
  rw [result_cycle_eq_ok_iff.1 ((executed?_eq_some_iff.1 hi).succeeds 0)] at h
  cases h

/-- **What a cycle reports**: nothing, or the word fetched and what there is to remark. -/
theorem events_cycle_eq (m : Machine) (random : UInt8) :
    (m.cycle random).events = m.reports := by
  have herror : ∀ f, (m.cycle random).result = .error f ↔ m.cycleFault = some f :=
    fun _ => result_cycle_eq_error_iff
  have hok : (m.cycle random).result = .ok () ↔ m.cycleFault = none := result_cycle_eq_ok_iff
  have ht := m.transition random
  generalize m.cycle random = o at ht herror hok
  cases ht with
  | paused hp =>
    rw [reports, fetched?, if_pos hp]
    rfl
  | unreadable hp hpc =>
    rw [reports, fetched?, hp, fetch_of_le hpc]
    rfl
  | unknown hp hpc hw =>
    have hf := (herror _).1 rfl
    rw [reports, fetched?_eq_some_iff.2 ⟨hp, fetch_of_lt hpc⟩, remarks,
      skipped?_eq_some_iff.2 hf, waiting?, executed?_of_cycleFault hf]
    rfl
  | failed hp hpc hw hfault =>
    have hf := (herror _).1 rfl
    have hskip : m.skipped? = none := Option.eq_none_iff_forall_ne_some.2 fun (w, a) hs => by
      rw [skipped?_eq_some_iff.1 hs] at hf
      cases hf
      cases isRecoverable_of_faultOf hfault
    rw [reports, fetched?_eq_some_iff.2 ⟨hp, fetch_of_lt hpc⟩, remarks, hskip, waiting?,
      executed?_of_cycleFault hf]
    rfl
  | executed hp hpc hw hfault =>
    have hi := executed?_eq_some_iff.2 (executes_iff.2 ⟨hp, hpc, hw, hfault⟩)
    rw [reports, fetched?_eq_some_iff.2 ⟨hp, fetch_of_lt hpc⟩, events_execute, remarks, skipped?,
      hok.1 rfl, waiting?, hi]
    rfl

theorem reports_of_paused (hp : m.flags.isPaused = true) : m.reports = [] := by
  rw [reports, fetched?, if_pos hp]

end Machine

/-! ## What is said -/

/-- What is said in the log on one level, in order. -/
def Outcome.said {σ α : Type} (o : Outcome σ α) (level : Level) : List String :=
  (o.events.filter fun e => decide (e.level = level)).map Event.message

namespace Machine

variable {m : Machine}

/-- The reports of a cycle, level by level. -/
theorem filter_reports (m : Machine) (level : Level) :
    (m.reports.filter fun e => decide (e.level = level)) =
      match level with
      | .trace => (m.fetched?.map fun w => Event.fetched m.cycles m.pc w).toList
      | .warn => (m.skipped?.map fun (w, a) => Event.skipped w a).toList
      | .debug => (m.waiting?.map Event.waiting).toList := by
  rw [reports]
  cases hf : m.fetched? with
  | none =>
    have hskip : m.skipped? = none := Option.eq_none_iff_forall_ne_some.2 fun s hs => by
      rw [fetched?_of_skipped? hs] at hf
      cases hf
    have hwait : m.executed? = none := Option.eq_none_iff_forall_ne_some.2 fun i hi => by
      rw [fetched?_of_executed? hi] at hf
      cases hf
    rw [hskip, waiting?, hwait]
    cases level <;> rfl
  | some w =>
    dsimp only
    rw [remarks]
    cases level <;> cases m.skipped? <;> cases m.waiting? <;> rfl

end Machine

/-! ## Runs -/

namespace Console

variable {c : Console} {n : Nat}

/-- The run ends with a fault, and this is the fault of an instruction and not that of a fetch. -/
def FailedInInstruction (o : Outcome Console (Except Fault Unit)) : Prop :=
  let m := o.state.machine
  ∃ f w i, o.result = .error f ∧ m.fetch = .ok w ∧ Instruction.decode? w = some i ∧
    ∀ random, (m.stepPast.execute random i).result = .error f

theorem exists_fatal {r : Except Fault Unit} (h : ¬ goesOn r = true) :
    ∃ f, r = .error f ∧ f.isRecoverable = false := by
  cases r with
  | ok u => exact absurd rfl h
  | error f => exact ⟨f, rfl, Bool.not_eq_true _ ▸ h⟩

/-- **A cycle in four ways**, by what is fetched, what is counted and whether a run goes on. -/
theorem cycle_ways (c : Console) :
    (c.cycle = .done c ∧ c.machine.fetched? = none) ∨
    (¬ goesOn c.cycle.result = true ∧ c.cycle.state = c ∧ c.machine.fetched? = none ∧
      ∀ w, c.machine.fetch ≠ .ok w) ∨
    (goesOn c.cycle.result = true ∧ c.cycle.state.machine.cycles = c.machine.cycles + 1 ∧
      ∃ w, c.machine.fetched? = some w) ∨
    (¬ goesOn c.cycle.result = true ∧ c.cycle.state = c ∧ (∃ w, c.machine.fetched? = some w) ∧
      FailedInInstruction c.cycle) := by
  cases hp : c.machine.flags.isPaused with
  | true => exact .inl ⟨cycle_of_paused hp, by rw [Machine.fetched?, if_pos hp]⟩
  | false =>
    rcases Nat.lt_or_ge (c.machine.pc.toNat + 1) c.machine.memory.size with hpc | hpc
    · have hfetch := Machine.fetch_of_lt hpc
      have hword := Machine.fetched?_eq_some_iff.2 ⟨hp, hfetch⟩
      by_cases hg : goesOn c.cycle.result = true
      · exact .inr (.inr (.inl ⟨hg, cycles_of_goesOn hp hg, _, hword⟩))
      · obtain ⟨f, hr, hf⟩ := exists_fatal hg
        have hstate := state_cycle_of_fatal hr hf
        refine .inr (.inr (.inr ⟨hg, hstate, ⟨_, hword⟩, ?_⟩))
        rw [FailedInInstruction, hstate]
        obtain ⟨hge, -, -⟩ | ⟨-, -, rfl, -⟩ | ⟨-, ⟨i, hi, hfault⟩, -⟩ :=
          Machine.cycle_error_cases hr
        · exact absurd hpc (Nat.not_lt_of_le hge)
        · cases hf
        · refine ⟨f, _, i, hr, hfetch, hi, fun random => ?_⟩
          rw [Machine.execute_of_faultOf random (Instruction.fits_of_decode? hi) hfault]
          rfl
    · have hfetch := Machine.fetch_of_le hpc
      have hr : c.cycle.result =
          .error (.outOfBounds (max c.machine.pc.toNat c.machine.memory.size)) := by
        show (c.machine.cycle c.entropy.next).result = _
        rw [Machine.cycle, hp, hfetch]
        rfl
      refine .inr (.inl ⟨?_, state_cycle_of_fatal hr rfl, ?_, fun w hw => ?_⟩)
      · rw [hr]
        exact Bool.false_ne_true
      · rw [Machine.fetched?, hp, hfetch]
        rfl
      · rw [hfetch] at hw
        cases hw

/-- A word that is fetched, and the machine that fetches it. -/
structure Fetch where
  /-- The machine at the start of the cycle. -/
  machine : Machine
  /-- The word at its program counter. -/
  word : UInt16

/-- The words that are fetched in a run of `n` cycles. -/
def fetches (n : Nat) (c : Console) : List Fetch :=
  (c.runStarts n).filterMap fun m => m.fetched?.map (Fetch.mk m)

theorem fetches_of_none (h : c.machine.fetched? = none) :
    c.fetches (n + 1) = if goesOn c.cycle.result then c.cycle.state.fetches n else [] := by
  rw [fetches, runStarts, List.filterMap_cons, h]
  cases goesOn c.cycle.result <;> rfl

theorem fetches_of_some {w : UInt16} (h : c.machine.fetched? = some w) :
    c.fetches (n + 1) =
      ⟨c.machine, w⟩ :: if goesOn c.cycle.result then c.cycle.state.fetches n else [] := by
  rw [fetches, runStarts, List.filterMap_cons, h]
  cases goesOn c.cycle.result <;> rfl

theorem add_one_add_ofNat (a : UInt64) (j : Nat) : a + 1 + .ofNat j = a + .ofNat (j + 1) := by
  rw [UInt64.ofNat_add, UInt64.add_assoc, UInt64.add_comm 1]
  rfl

/-- **Fetches are numbered without a gap**, from the number of cycles at the start. -/
theorem cycles_fetches {j : Nat} (h : j < (c.fetches n).length) :
    (c.fetches n)[j].machine.cycles = c.machine.cycles + .ofNat j := by
  induction n generalizing c j with
  | zero => cases h
  | succ n ih =>
    obtain ⟨hcycle, hnone⟩ | ⟨hg, -, hnone, -⟩ | ⟨hg, hcount, w, hw⟩ | ⟨hg, -, ⟨w, hw⟩, -⟩ :=
      cycle_ways c
    · simp only [fetches_of_none hnone, hcycle] at h ⊢
      exact ih h
    · simp only [fetches_of_none hnone, if_neg hg] at h
      cases h
    · simp only [fetches_of_some hw, if_pos hg] at h ⊢
      cases j with
      | zero => exact (UInt64.add_zero _).symm
      | succ j =>
        rw [List.getElem_cons_succ, ih (Nat.lt_of_succ_lt_succ h), hcount, add_one_add_ofNat]
    · simp only [fetches_of_some hw, if_neg hg] at h ⊢
      obtain rfl : j = 0 := Nat.lt_one_iff.1 h
      exact (UInt64.add_zero _).symm

theorem map_fetches {α : Type} (f : UInt64 → Fetch → α) (n : Nat) (c : Console) :
    (c.fetches n).map (fun x => f x.machine.cycles x) =
      (c.fetches n).mapIdx fun j x => f (c.machine.cycles + .ofNat j) x := by
  refine List.ext_getElem (by rw [List.length_map, List.length_mapIdx]) fun j h _ => ?_
  rw [List.length_map] at h
  rw [List.getElem_map, List.getElem_mapIdx, cycles_fetches h]

/-- **What is fetched is counted**, unless it is an instruction that ends the run. -/
theorem length_fetches (n : Nat) (c : Console) :
    ∃ t ≤ n, ∃ k ≤ 1, (c.run n).state.machine.cycles = c.machine.cycles + .ofNat t ∧
      (c.fetches n).length = t + k ∧ (k = 1 ↔ FailedInInstruction (c.run n)) := by
  induction n generalizing c with
  | zero =>
    refine ⟨0, Nat.le_refl 0, 0, Nat.zero_le 1, (UInt64.add_zero _).symm, rfl, nofun, ?_⟩
    rintro ⟨f, w, i, hr, -⟩
    cases hr
  | succ n ih =>
    obtain ⟨hcycle, hnone⟩ | ⟨hg, hstate, hnone, hfetch⟩ | ⟨hg, hcount, w, hw⟩ |
      ⟨hg, hstate, ⟨w, hw⟩, hfailed⟩ := cycle_ways c
    · obtain ⟨t, ht, k, hk, hcycles, hlength, hiff⟩ := ih c
      have hrun : c.run (n + 1) = c.run n := by
        rw [run_succ, hcycle]
        rfl
      have hsame : c.fetches (n + 1) = c.fetches n := by
        rw [fetches_of_none hnone, hcycle]
        rfl
      rw [hrun, hsame]
      exact ⟨t, Nat.le_succ_of_le ht, k, hk, hcycles, hlength, hiff⟩
    · rw [run_of_not_goesOn hg, hstate, fetches_of_none hnone, if_neg hg]
      refine ⟨0, Nat.zero_le _, 0, Nat.zero_le 1, (UInt64.add_zero _).symm, rfl, nofun, ?_⟩
      rintro ⟨f, w, i, -, hw, -⟩
      rw [hstate] at hw
      exact absurd hw (hfetch w)
    · obtain ⟨t, ht, k, hk, hcycles, hlength, hiff⟩ := ih c.cycle.state
      rw [run_of_goesOn hg, fetches_of_some hw, if_pos hg]
      refine ⟨t + 1, Nat.succ_le_succ ht, k, hk, ?_, ?_, hiff⟩
      · rw [← add_one_add_ofNat, ← hcount]
        exact hcycles
      · rw [List.length_cons, hlength, Nat.add_right_comm]
    · rw [run_of_not_goesOn hg, hstate, fetches_of_some hw, if_neg hg]
      exact ⟨0, Nat.zero_le _, 1, Nat.le_refl 1, (UInt64.add_zero _).symm, rfl, fun _ => hfailed,
        fun _ => rfl⟩

/-- **The events of a run** are those of its cycles. -/
theorem events_run (n : Nat) (c : Console) :
    (c.run n).events = (c.runStarts n).flatMap Machine.reports := by
  induction n generalizing c with
  | zero => rfl
  | succ n ih =>
    rw [run_succ, runStarts, List.flatMap_cons, ← c.machine.events_cycle_eq c.entropy.next]
    by_cases hg : goesOn c.cycle.result = true
    · rw [if_pos hg, if_pos hg, ← ih]
      rfl
    · rw [if_neg hg, if_neg hg, List.flatMap_nil, List.append_nil]
      rfl

theorem flatMap_reports (n : Nat) (c : Console) :
    (c.runStarts n).flatMap Machine.reports =
      (c.fetches n).flatMap fun x =>
        .fetched x.machine.cycles x.machine.pc x.word :: x.machine.remarks := by
  rw [fetches]
  induction c.runStarts n with
  | nil => rfl
  | cons m ms ih =>
    rw [List.flatMap_cons, List.filterMap_cons, Machine.reports, ih]
    cases m.fetched? <;> rfl

/-- If a cycle says at most one thing on a level, then what a run says on it is what its cycles
say. -/
theorem said_run {level : Level} {f : Machine → Option Event}
    (h : ∀ m : Machine, (m.reports.filter fun e => decide (e.level = level)) = (f m).toList)
    (n : Nat) (c : Console) :
    (c.run n).said level = (c.runStarts n).filterMap fun m => (f m).map Event.message := by
  rw [← List.map_filterMap, List.filterMap_eq_flatMap_toList, Outcome.said, events_run,
    List.filter_flatMap]
  exact congrArg _ (List.flatMap_congr fun m _ => h m)

/-- **The log accounts for every cycle.**  In the log of a run of `n` cycles the messages on the
level of single steps are those of the words fetched, with the program counter and the plain text of
each, and they are numbered without a gap from the number of cycles at the start.  They are as many
as the cycles counted, and one more iff the run ends with the fault of an instruction.  Each word
that is stepped over is warned of, and each key wait that is begun is noted, and there are no other
messages on these two levels.  Whatever is said of a cycle follows the message of its word; a cycle
of a paused machine is not mentioned. -/
theorem log_accounts (c : Console) (n : Nat) :
    let o := c.run n
    let first := c.machine.cycles
    o.said .trace = (c.fetches n).mapIdx (fun j x =>
      padLeft 6 (decimal (first + .ofNat j).toNat) ++ " " ++ hex 3 x.machine.pc.toNat ++ ": " ++
        padRight 36 (Disassembly.plain.once x.word)) ∧
    (∃ t ≤ n, ∃ k ≤ 1, o.state.machine.cycles = first + .ofNat t ∧
      (o.said .trace).length = t + k ∧ (k = 1 ↔ FailedInInstruction o)) ∧
    o.said .warn = ((c.runStarts n).filterMap Machine.skipped?).map (fun s =>
      "skipping unknown opcode " ++ hex 4 s.1.toNat ++ " at " ++ hex 3 s.2.toNat) ∧
    o.said .debug = ((c.executed (.run n)).filterMap Instruction.awaiting?).map (fun x =>
      "waiting for key -> " ++ registerText x) ∧
    o.events = ((c.fetches n).mapIdx fun j x =>
      .fetched (first + .ofNat j) x.machine.pc x.word :: x.machine.remarks).flatten ∧
    ∀ m ∈ c.runStarts n, m.flags.isPaused = true → ∀ random, (m.cycle random).events = [] := by
  intro o first
  have htrace : o.said .trace = (c.fetches n).mapIdx fun j x =>
      (Event.fetched (first + .ofNat j) x.machine.pc x.word).message := by
    rw [← map_fetches fun cycle x => (Event.fetched cycle x.machine.pc x.word).message, fetches,
      List.map_filterMap, said_run fun m => m.filter_reports .trace]
    simp only [Option.map_map, Function.comp_def]
  refine ⟨htrace, ?_, ?_, ?_, ?_, fun m _ hp random => ?_⟩
  · rw [htrace, List.length_mapIdx]
    exact length_fetches n c
  · rw [said_run fun m => m.filter_reports .warn, List.map_filterMap]
    simp only [Option.map_map]
    rfl
  · rw [said_run fun m => m.filter_reports .debug, executed, List.filterMap_filterMap,
      List.map_filterMap]
    simp only [Option.map_map]
    rfl
  · rw [events_run, flatMap_reports, List.flatMap_def,
      map_fetches fun cycle x => .fetched cycle x.machine.pc x.word :: x.machine.remarks]
  · rw [Machine.events_cycle_eq, Machine.reports_of_paused hp]

end Console

end Chip8
