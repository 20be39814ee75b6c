import Chip8.CommandLine.Runner
import Chip8.Proofs.Machine.Independence
import Chip8.Proofs.Machine.Iteration
import Chip8.Proofs.Machine.Loading

/-!
# Only the number of cycles matters

A frame is a run of a number of cycles and, unless the run has failed, a tick of the timers.  A run
can be cut into shorter ones anywhere, so frames do what one long run does, except for the ticks;
and ticks touch nothing but the timers, of which one is read by one instruction and the other by
none.  So a program that does not execute this instruction ends in the same way however its cycles
are cut into frames, and what is printed about it differs in the timers at most.

## What is here

* `ReadsDelay` — whether the instruction that reads the delay timer is in a list.
* `Machine.withTimers`, `Machine.exists_withTimers` — a machine with other timers.
* `Console.executed_run_add` — the instructions of a run in two parts; `Console.framesExecuted`,
  those of a number of frames.
* `Console.readsDelay_frames_iff`, `Console.framesFrom_alike` — frames, and the run of all their
  cycles; `Console.frames_of_total`, frames with the same number of cycles in total.
* `Runner.SameAround` — texts that differ in one place; `Runner.summary_withTimers`, what is printed
  about machines that differ in their timers.
* `Runner.outcome_of_total` — the outcome of the program.
-/

set_option autoImplicit false

namespace Chip8

/-- The instruction that reads the delay timer is one of these. -/
def ReadsDelay (is : List Instruction) : Prop := ∃ x, .misc .readDelay x ∈ is

theorem readsDelay_append {is js : List Instruction} :
    ReadsDelay (is ++ js) ↔ ReadsDelay is ∨ ReadsDelay js := by
  simp only [ReadsDelay, List.mem_append, exists_or]

/-- A part of the setting is a timer. -/
def Aspect.IsTimer (a : Aspect) : Prop := a = .delay ∨ a = .sound

/-! ## Machines that differ in their timers -/

namespace Machine

variable {m n : Machine}

/-- The machine with other timers. -/
def withTimers (m : Machine) (delay sound : UInt8) : Machine := { m with delay, sound }

theorem exists_withTimers (h : m.AlikeBut Aspect.IsTimer n) :
    ∃ delay sound, n = m.withTimers delay sound := by
  obtain ⟨s, rfl, hs⟩ := h
  have hother : ∀ a, a ≠ .delay → a ≠ .sound → s.SameIn m.setting a :=
    fun a hdelay hsound => hs a (not_or.2 ⟨hdelay, hsound⟩)
  have hdialect : s.dialect = m.flags.dialect :=
    Dialect.eq_of_choice fun q => hother (.choice q) nofun nofun
  have hkeys : s.keys = m.keys := hother .keys nofun nofun
  have hcycles : s.cycles = m.cycles := hother .cycles nofun nofun
  rw [inSetting, hdialect, hkeys, hcycles]
  exact ⟨s.delay, s.sound, rfl⟩

/-- A tick touches nothing but the timers. -/
theorem alikeBut_tick (m : Machine) : m.AlikeBut Aspect.IsTimer m.tick := by
  refine ⟨m.setting.tick, rfl, fun a ha => ?_⟩
  cases a with
  | delay => exact absurd (.inl rfl) ha
  | sound => exact absurd (.inr rfl) ha
  | choice | keys | cycles => rfl

theorem AlikeBut.executed? {X : Aspect → Prop} (h : m.AlikeBut X n) :
    n.executed? = m.executed? := by
  ext i
  rw [executed?_eq_some_iff, executed?_eq_some_iff, h.executes_iff]

end Machine

/-! ## Runs -/

namespace Console

variable {X : Aspect → Prop} {c c' : Console} {n : Nat}

theorem AlikeBut.symm (h : c.AlikeBut X c') : c'.AlikeBut X c := ⟨h.1.symm, h.2.symm⟩

theorem AlikeBut.trans {c'' : Console} (h : c.AlikeBut X c') (h' : c'.AlikeBut X c'') :
    c.AlikeBut X c'' :=
  ⟨h'.1.trans h.1, h.2.trans h'.2⟩

theorem exists_withTimers (h : c.AlikeBut Aspect.IsTimer c') :
    ∃ delay sound, c' = { c with machine := c.machine.withTimers delay sound } := by
  obtain ⟨delay, sound, hmachine⟩ := Machine.exists_withTimers h.2
  exact ⟨delay, sound, congrArg₂ Console.mk hmachine h.1⟩

theorem runStarts_add (m n : Nat) (c : Console) :
    c.runStarts (m + n) = c.runStarts m ++ match (c.run m).result with
      | .ok () => (c.run m).state.runStarts n
      | .error _ => [] := by
  induction m generalizing c with
  | zero => rw [Nat.zero_add, run_zero]; rfl
  | succ m ih =>
    rw [Nat.add_right_comm, runStarts, runStarts, List.cons_append]
    by_cases hg : goesOn c.cycle.result = true
    · rw [if_pos hg, if_pos hg, run_of_goesOn hg, ih]
      rfl
    · rw [if_neg hg, if_neg hg, run_of_not_goesOn hg]
      cases hr : c.cycle.result with
      | ok u => exact absurd (by rw [hr]; rfl) hg
      | error f => rfl

/-- **The instructions of a run in two parts.** -/
theorem executed_run_add (m n : Nat) (c : Console) :
    c.executed (.run (m + n)) = c.executed (.run m) ++ match (c.run m).result with
      | .ok () => (c.run m).state.executed (.run n)
      | .error _ => [] := by
  simp only [executed, starts, runStarts_add, List.filterMap_append]
  cases (c.run m).result <;> rfl

/-- Consoles that are alike execute the same, as long as nothing looks at a part in which they may
differ. -/
theorem alike_executed (h : c.AlikeBut X c')
    (hX : ∀ m ∈ c.runStarts n, ∀ i, m.Executes i → ∀ a, i.Reads a → ¬ X a) :
    c'.executed (.run n) = c.executed (.run n) := by
  simp only [executed, starts]
  induction n generalizing c c' with
  | zero => rfl
  | succ n ih =>
    obtain ⟨hresult, hstate⟩ := alike_cycle h (hX c.machine List.mem_cons_self)
    rw [runStarts, runStarts, hresult, List.filterMap_cons, List.filterMap_cons, h.2.executed?]
    by_cases hg : goesOn c.cycle.result = true
    · rw [runStarts, if_pos hg] at hX
      rw [if_pos hg, if_pos hg, ih hstate fun m hm => hX m (List.mem_cons_of_mem _ hm)]
    · rw [if_neg hg, if_neg hg]

/-- **Timers that nobody reads**: a run does the same on consoles that differ in their timers
only. -/
theorem alike_run_of_not_readsDelay (h : c.AlikeBut Aspect.IsTimer c')
    (hno : ¬ ReadsDelay (c.executed (.run n))) :
    (c'.run n).result = (c.run n).result ∧
      (c.run n).state.AlikeBut Aspect.IsTimer (c'.run n).state ∧
      c'.executed (.run n) = c.executed (.run n) := by
  have hX : ∀ m ∈ c.runStarts n, ∀ i, m.Executes i → ∀ a, i.Reads a → ¬ a.IsTimer := by
    rintro m hm i hi a hread (rfl | rfl)
    · obtain ⟨x, rfl⟩ := hread
      exact hno ⟨x, mem_executed.2 ⟨m, hm, hi⟩⟩
    · exact hread
  obtain ⟨hresult, hstate⟩ := alike_run h hX
  exact ⟨hresult, hstate, alike_executed h hX⟩

/-- Whether a timer is read does not depend on the timers. -/
theorem readsDelay_run_iff (h : c.AlikeBut Aspect.IsTimer c') :
    ReadsDelay (c'.executed (.run n)) ↔ ReadsDelay (c.executed (.run n)) := by
  constructor
  · intro hread
    by_contra hno
    obtain ⟨-, -, hsame⟩ := alike_run_of_not_readsDelay h hno
    rw [hsame] at hread
    exact hno hread
  · intro hread
    by_contra hno
    obtain ⟨-, -, hsame⟩ := alike_run_of_not_readsDelay h.symm hno
    rw [hsame] at hread
    exact hno hread

/-! ## Frames -/

/-- What ended a run early, if anything. -/
def endedBy : Except Fault Unit → Option Fault
  | .ok () => none
  | .error f => some f

/-- The instructions that `n` frames of `perFrame` cycles each execute. -/
def framesExecuted (perFrame : Nat) : Nat → Console → List Instruction
  | 0, _ => []
  | n + 1, c =>
    let o := c.run perFrame
    c.executed (.run perFrame) ++ match o.result with
      | .ok () => framesExecuted perFrame n { o.state with machine := o.state.machine.tick }
      | .error _ => []

theorem AlikeBut.tick (h : c.AlikeBut Aspect.IsTimer c') :
    c.AlikeBut Aspect.IsTimer { c' with machine := c'.machine.tick } :=
  ⟨h.1, h.2.trans (Machine.alikeBut_tick _)⟩

/-- **Frames read a timer if the run of all their cycles does.** -/
theorem readsDelay_frames_iff {perFrame : Nat} (h : c.AlikeBut Aspect.IsTimer c') :
    ReadsDelay (c'.framesExecuted perFrame n) ↔
      ReadsDelay (c.executed (.run (perFrame * n))) := by
  induction n generalizing c c' with
  | zero => rfl
  | succ n ih =>
    have hsplit : perFrame * (n + 1) = perFrame + perFrame * n := by
      rw [Nat.mul_succ, Nat.add_comm]
    rw [framesExecuted, hsplit, executed_run_add, readsDelay_append, readsDelay_append,
      readsDelay_run_iff h]
    by_cases hfirst : ReadsDelay (c.executed (.run perFrame))
    · simp only [hfirst, true_or]
    · obtain ⟨hresult, hstate, -⟩ := alike_run_of_not_readsDelay h hfirst
      rw [hresult]
      cases (c.run perFrame).result with
      | ok u => exact or_congr Iff.rfl (ih hstate.tick)
      | error f => rfl

/-- **Frames do what the run of all their cycles does**, except to the timers, if nothing reads
these. -/
theorem framesFrom_alike {perFrame : Nat} (h : c.AlikeBut Aspect.IsTimer c')
    (hno : ¬ ReadsDelay (c.executed (.run (perFrame * n)))) (begun : Nat) :
    let played := c'.framesFrom perFrame begun n
    let o := c.run (perFrame * n)
    o.state.AlikeBut Aspect.IsTimer played.console ∧ played.ended = endedBy o.result := by
  induction n generalizing c c' begun with
  | zero => exact ⟨h, rfl⟩
  | succ n ih =>
    have hsplit : perFrame * (n + 1) = perFrame + perFrame * n := by
      rw [Nat.mul_succ, Nat.add_comm]
    rw [hsplit, executed_run_add, readsDelay_append, not_or] at hno
    obtain ⟨hfirst, hrest⟩ := hno
    obtain ⟨hresult, hstate, -⟩ := alike_run_of_not_readsDelay h hfirst
    rw [framesFrom, hsplit, run_add, hresult]
    cases hr : (c.run perFrame).result with
    | ok u =>
      rw [hr] at hrest
      exact ih hstate.tick hrest _
    | error f => exact ⟨hstate, by rw [hr]; rfl⟩

/-- **The total number of cycles decides.**  Frames that read no timer end as the run of all
their cycles does, in its state but for the timers, and so do frames of other lengths with as
many cycles in total. -/
theorem frames_of_total {perFrame perFrame' n n' : Nat} (htotal : perFrame' * n' = perFrame * n)
    (hno : ¬ ReadsDelay (c.framesExecuted perFrame n)) :
    let o := c.run (perFrame * n)
    let played := c.frames perFrame n
    let played' := c.frames perFrame' n'
    (o.state.AlikeBut Aspect.IsTimer played.console ∧ played.ended = endedBy o.result) ∧
      o.state.AlikeBut Aspect.IsTimer played'.console ∧ played'.ended = endedBy o.result := by
  have hself : c.AlikeBut Aspect.IsTimer c := ⟨rfl, c.machine.setting, rfl, fun a _ => .refl _ a⟩
  rw [readsDelay_frames_iff hself] at hno
  have hplayed := framesFrom_alike hself hno 0
  rw [← htotal] at hno
  have hplayed' := framesFrom_alike hself hno 0
  rw [htotal] at hplayed'
  exact ⟨hplayed, hplayed'⟩

end Console

/-! ## What is printed -/

namespace CommandLine.Runner

open Text

/-- The texts are the same, but for `t` in the one where `t'` is in the other. -/
def SameAround (t t' s s' : String) : Prop :=
  ∃ before after, s = before ++ t ++ after ∧ s' = before ++ t' ++ after

namespace SameAround

variable {t t' s s' : String}

theorem append_left (h : SameAround t t' s s') (u : String) :
    SameAround t t' (u ++ s) (u ++ s') := by
  obtain ⟨before, after, rfl, rfl⟩ := h
  exact ⟨u ++ before, after, by simp only [String.append_assoc], by simp only [String.append_assoc]⟩

theorem append_right (h : SameAround t t' s s') (u : String) :
    SameAround t t' (s ++ u) (s' ++ u) := by
  obtain ⟨before, after, rfl, rfl⟩ := h
  exact ⟨before, after ++ u, String.append_assoc .., String.append_assoc ..⟩

theorem styled (h : SameAround t t' s s') (look : Look) :
    SameAround t t' (Text.styled look s) (Text.styled look s') :=
  (h.append_left _).append_right _

end SameAround

/-- The timers as they are listed. -/
def timersText (m : Machine) : String :=
  "DLY: " ++ decimal m.delay.toNat ++ ", SND: " ++ decimal m.sound.toNat

/-- What is listed ahead of the timers. -/
def registersText (m : Machine) : String :=
  "PC: " ++ hex 4 m.pc.toNat ++ ", SP: " ++ hex 4 m.stack.length ++ ", I: " ++
    hex 4 m.index.toNat ++ "\n" ++ String.join (m.registers.toList.mapIdx Machine.registerListing)

theorem listing_eq (m : Machine) : m.listing =
    registersText m ++ timersText m ++ (", CYC: " ++ padLeft 6 (decimal m.cycles.toNat)) := by
  show registersText m ++ "DLY: " ++ decimal m.delay.toNat ++ ", SND: " ++
    decimal m.sound.toNat ++ ", CYC: " ++ padLeft 6 (decimal m.cycles.toNat) = _
  simp only [timersText, String.append_assoc]

/-- **Nothing but the timers is different** in what is printed about machines that differ
in their timers only. -/
theorem summary_withTimers (m : Machine) (delay sound : UInt8) (ended : Option Fault) :
    let n := m.withTimers delay sound
    (summary n ended).code = (summary m ended).code ∧
      (summary n ended).err = (summary m ended).err ∧
      SameAround (timersText m) (timersText n) (summary m ended).out (summary n ended).out := by
  intro n
  have hlisting : SameAround (timersText m) (timersText n) m.listing n.listing :=
    ⟨registersText m, ", CYC: " ++ padLeft 6 (decimal m.cycles.toNat), listing_eq m, listing_eq n⟩
  have hregisters := (hlisting.styled .dim).append_left (styled .green m.screen.text ++ "\n")
  have hout := (hregisters.append_right "\n").append_right
    (if m.flags.keyWait then styled .yellow "waiting for a key" ++ "\n" else "")
  cases ended with
  | none => exact ⟨rfl, rfl, hout⟩
  | some f => exact ⟨rfl, rfl, hout⟩

/-! ## The program -/

variable {s s' : Settings} {entropy : Entropy} {program : List UInt8}

/-- The console on which the frames are played. -/
def start (s : Settings) (entropy : Entropy) (program : List UInt8) : Console :=
  ⟨((Machine.initial s.dialect).load program).state, entropy⟩

/-- The frames that are played. -/
def played (s : Settings) (entropy : Entropy) (program : List UInt8) : Played :=
  (start s entropy program).frames s.perFrame s.frames

/-- A program that is not too large is played. -/
theorem play_of_le (h : program.length ≤ Memory.programLimit) :
    let p := played s entropy program
    play s entropy program =
      { summary p.console.machine p.ended with wait := s.frameTime * p.begun } := by
  simp only [play, played, start, Machine.load_of_le h]

/-- **Only the total number of cycles matters.**  A program is run twice, in frames of different
lengths but with as many cycles in total, and executes no `Fx07` in the one run.  Then the frames
leave behind the console that the cycles by themselves would, but for the timers, and end early when
these would.  Both runs leave behind consoles that differ in the timers only, end early for the same
reason or not at all, and print the same, but for the timers in the list of registers. -/
theorem outcome_of_total (hprogram : program.length ≤ 0xe00) (hdialect : s'.dialect = s.dialect)
    (htotal : s'.perFrame * s'.frames = s.perFrame * s.frames)
    (hno : ¬ ReadsDelay ((start s entropy program).framesExecuted s.perFrame s.frames)) :
    let o := (start s entropy program).run (s.perFrame * s.frames)
    let p := played s entropy program
    let p' := played s' entropy program
    let r := play s entropy program
    let r' := play s' entropy program
    ((∃ delay sound, p.console =
      { o.state with machine := o.state.machine.withTimers delay sound }) ∧
      p.ended = Console.endedBy o.result) ∧
    (∃ delay sound, p'.console =
      { p.console with machine := p.console.machine.withTimers delay sound }) ∧
      p'.ended = p.ended ∧ r'.code = r.code ∧ r'.err = r.err ∧
      SameAround (timersText p.console.machine) (timersText p'.console.machine) r.out r'.out := by
  intro o p p' r r'
  have hstart : start s' entropy program = start s entropy program := by
    rw [start, start, hdialect]
  have hp' : p' = (start s entropy program).frames s'.perFrame s'.frames := by
    rw [← hstart]
    rfl
  obtain ⟨⟨hp, hended⟩, halike', hended'⟩ := Console.frames_of_total htotal hno
  rw [← hp'] at halike' hended'
  have halike : o.state.AlikeBut Aspect.IsTimer p.console := hp
  obtain ⟨delay, sound, hconsole⟩ := Console.exists_withTimers (halike.symm.trans halike')
  have hend : p'.ended = p.ended := hended'.trans hended.symm
  have hr : r = { summary p.console.machine p.ended with wait := s.frameTime * p.begun } :=
    play_of_le hprogram
  have hr' : r' = { summary p'.console.machine p'.ended with wait := s'.frameTime * p'.begun } :=
    play_of_le hprogram
  obtain ⟨hcode, herr, hout⟩ := summary_withTimers p.console.machine delay sound p.ended
  refine ⟨⟨Console.exists_withTimers halike, hended⟩, ⟨delay, sound, hconsole⟩, hend, ?_⟩
  rw [hr, hr', hend, hconsole]
  exact ⟨hcode, herr, hout⟩

set_option maxRecDepth 100000 in
/-- A program that sets the delay timer and then returns from where nothing was called, in the
middle of the first frame of three cycles and in the second one of two.  The timer has counted
down once in between. -/
theorem outcome_of_total_underflow :
    let program : List UInt8 := [0x60, 0x05, 0xf0, 0x15, 0x00, 0xee]
    let entropy : Entropy := ⟨fun _ => 0, 0⟩
    let s : Settings := { perFrame := 3, frames := 4 }
    let s' : Settings := { perFrame := 2, frames := 6 }
    (played s entropy program).ended = some (.stackUnderflow 0x204) ∧
      (played s' entropy program).ended = some (.stackUnderflow 0x204) ∧
      timersText (played s entropy program).console.machine = "DLY: 5, SND: 0" ∧
      timersText (played s' entropy program).console.machine = "DLY: 4, SND: 0" ∧
      (play s' entropy program).code = (play s entropy program).code ∧
      (play s' entropy program).err = (play s entropy program).err ∧
      SameAround "DLY: 5, SND: 0" "DLY: 4, SND: 0"
        (play s entropy program).out (play s' entropy program).out := by
  intro program entropy s s'
  have hprogram : program.length ≤ 0xe00 := by decide
  have hdialect : s'.dialect = s.dialect := rfl
  have htotal : s'.perFrame * s'.frames = s.perFrame * s.frames := rfl
  have h : (start s entropy program).framesExecuted s.perFrame s.frames =
        [.setByte 0 5, .misc .setDelay 0] ∧
      (played s entropy program).ended = some (.stackUnderflow 0x204) ∧
      timersText (played s entropy program).console.machine = "DLY: 5, SND: 0" ∧
      timersText (played s' entropy program).console.machine = "DLY: 4, SND: 0" := by
    decide +kernel
  obtain ⟨hexecuted, hunderflow, hfive, hfour⟩ := h
  have hno : ¬ ReadsDelay ((start s entropy program).framesExecuted s.perFrame s.frames) := by
    rw [hexecuted]
    simp [ReadsDelay]
  -- nothing from here on is to be evaluated
  clear_value program entropy s s'
  obtain ⟨-, -, hended, hcode, herr, hout⟩ := outcome_of_total hprogram hdialect htotal hno
  rw [hfive, hfour] at hout
  exact ⟨hunderflow, hended.trans hunderflow, hfive, hfour, hcode, herr, hout⟩

end CommandLine.Runner

end Chip8
