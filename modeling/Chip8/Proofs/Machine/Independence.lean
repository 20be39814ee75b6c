import Chip8.Proofs.Machine.Keys
import Chip8.Proofs.Machine.Setting

/-!
# Two runs in different settings

The same is done to two consoles that draw the same random bytes and whose machines differ in their
settings only.  As long as no instruction looks at a part in which they differ, every operation
answers the same on both, and they go on differing in these parts only.  Keys are not among the
parts here, because a press answers whether the key was held.

Whether an instruction looks is asked of the first console only; the second one executes the same.

## What is here

* `Machine.AlikeBut.press`, `Machine.AlikeBut.reset` and so on — what is done to machines from
  outside keeps them alike.
* `Console.AlikeBut` — the same of consoles, with `alike_perform`, one operation, and
  `alike_performAll`, a list of them.
* `Console.dialect_confined` — each detail of the dialect matters to the instructions that ask
  for it and to nothing else.
* `Console.timers_unobserved` — sound timer and number of cycles matter to nothing, and the delay
  timer to the one instruction that reads it.
-/

set_option autoImplicit false

namespace Chip8

/-! ## From outside -/

namespace Machine

variable {X : Aspect → Prop} {m n : Machine}

namespace AlikeBut

theorem tick (h : AlikeBut X m n) : AlikeBut X m.tick n.tick :=
  h.map (fun _ _ => rfl) Setting.partwise_tick

theorem setReg (h : AlikeBut X m n) (k : Nat) (b : UInt8) :
    AlikeBut X (m.setReg k b) (n.setReg k b) :=
  h.map (f := (·.setReg k b)) (fun _ _ => rfl) Setting.partwise_id

theorem setKey (h : AlikeBut X m n) (k : Nat) (down : Bool) :
    AlikeBut X (m.setKey k down) (n.setKey k down) :=
  h.map (f := (·.setKey k down)) (fun _ _ => rfl) (Setting.partwise_setKey k down)

theorem withMemory (h : AlikeBut X m n) (memory : Memory) :
    AlikeBut X { m with memory } { n with memory } :=
  h.map (f := fun m => { m with memory }) (fun _ _ => rfl) Setting.partwise_id

theorem togglePause (h : AlikeBut X m n) :
    AlikeBut X { m with flags := m.flags.togglePause }
      { n with flags := n.flags.togglePause } :=
  h.map (f := fun m => { m with flags := m.flags.togglePause }) (fun _ _ => rfl) Setting.partwise_id

theorem setKeyWait (h : AlikeBut X m n) (on : Bool) :
    AlikeBut X { m with flags := { m.flags with keyWait := on } }
      { n with flags := { n.flags with keyWait := on } } :=
  h.map (f := fun m => { m with flags := { m.flags with keyWait := on } }) (fun _ _ => rfl)
    Setting.partwise_id

theorem setDialect (h : AlikeBut X m n) (d : Dialect) :
    AlikeBut X { m with flags := { m.flags with dialect := d } }
      { n with flags := { n.flags with dialect := d } } :=
  h.map (f := fun m => { m with flags := { m.flags with dialect := d } }) (fun _ _ => rfl)
    (Setting.partwise_setDialect d)

/-- Starting over leaves nothing of the setting but the dialect. -/
theorem reset (h : AlikeBut X m n) : AlikeBut X m.reset n.reset := by
  refine h.map (g := fun s => (Machine.initial s.dialect).setting) (fun _ _ => rfl) ?_
  intro s t a h
  cases a with
  | choice q => exact h
  | delay | sound | keys | cycles => rfl

theorem takesRandom (h : AlikeBut X m n) : n.takesRandom = m.takesRandom := by
  obtain ⟨s, rfl, -⟩ := h
  rfl

theorem memory (h : AlikeBut X m n) : n.memory = m.memory := by
  obtain ⟨s, rfl, -⟩ := h
  rfl

theorem load (h : AlikeBut X m n) (program : List UInt8) :
    (n.load program).result = (m.load program).result ∧
      AlikeBut X (m.load program).state (n.load program).state := by
  rw [Machine.load_eq, Machine.load_eq, h.memory]
  split
  · exact ⟨rfl, h⟩
  · exact ⟨rfl, h.withMemory _⟩

theorem keys (h : AlikeBut X m n) (hX : ¬ X .keys) : n.keys = m.keys := by
  obtain ⟨s, rfl, hs⟩ := h
  exact hs .keys hX

theorem release (h : AlikeBut X m n) (hX : ¬ X .keys) (k : Nat) :
    (n.release k).result = (m.release k).result ∧
      AlikeBut X (m.release k).state (n.release k).state := by
  rw [result_release, result_release, held_congr (h.keys hX), state_release_eq_setKey,
    state_release_eq_setKey]
  exact ⟨rfl, h.setKey k false⟩

theorem press (h : AlikeBut X m n) (hX : ¬ X .keys) (k : Nat) :
    (n.press k).result = (m.press k).result ∧
      AlikeBut X (m.press k).state (n.press k).state := by
  have hheld : n.held k = m.held k := held_congr (h.keys hX) k
  by_cases hfresh : k < 16 ∧ m.held k = false
  · obtain ⟨hk, hfree⟩ := hfresh
    obtain ⟨s, rfl, hs⟩ := id h
    cases hw : m.flags.keyWait with
    | false =>
      rw [press_of_fresh hk hfree hw, press_of_fresh hk (hheld.trans hfree) hw]
      exact ⟨rfl, h.setKey k true⟩
    | true =>
      rw [press_of_waiting hk hfree hw, press_of_waiting hk (hheld.trans hfree) hw]
      exact ⟨rfl, ((h.setKey k true).setReg m.keyTarget.toNat (.ofNat k)).setKeyWait false⟩
  · rw [press_of_stale hfresh, press_of_stale (by rw [hheld]; exact hfresh)]
    exact ⟨rfl, h⟩

end AlikeBut

end Machine

/-! ## Consoles -/

namespace Console

variable {X : Aspect → Prop} {c c' : Console} {op : Operation} {ops : List Operation}

/-- The consoles draw the same random bytes, and their machines differ at most in the parts of their
settings that are in `X`. -/
def AlikeBut (X : Aspect → Prop) (c c' : Console) : Prop :=
  c'.entropy = c.entropy ∧ c.machine.AlikeBut X c'.machine

/-- A cycle answers the same on both consoles and keeps them alike. -/
theorem alike_cycle (h : c.AlikeBut X c')
    (hX : ∀ i, c.machine.Executes i → ∀ a, i.Reads a → ¬ X a) :
    c'.cycle.result = c.cycle.result ∧ c.cycle.state.AlikeBut X c'.cycle.state := by
  obtain ⟨hentropy, hm⟩ := h
  simp only [cycle, hentropy, hm.takesRandom]
  exact ⟨hm.result_cycle _, rfl, hm.cycle hX _⟩

/-- So does a run, which makes the same number of cycles on both. -/
theorem alike_run {n : Nat} (h : c.AlikeBut X c')
    (hX : ∀ m ∈ c.runStarts n, ∀ i, m.Executes i → ∀ a, i.Reads a → ¬ X a) :
    (c'.run n).result = (c.run n).result ∧ (c.run n).state.AlikeBut X (c'.run n).state := by
  induction n generalizing c c' with
  | zero => exact ⟨rfl, h⟩
  | succ n ih =>
    obtain ⟨hresult, hstate⟩ := alike_cycle h (hX c.machine List.mem_cons_self)
    rw [run_succ, run_succ, hresult]
    by_cases hg : goesOn c.cycle.result = true
    · rw [runStarts, if_pos hg] at hX
      rw [if_pos hg, if_pos hg]
      exact ih hstate fun m hm => hX m (List.mem_cons_of_mem _ hm)
    · rw [if_neg hg, if_neg hg]
      exact ⟨hresult, hstate⟩

theorem alike_edit (h : c.AlikeBut X c') (e : Memory.Edit) :
    (c'.edit e).result = (c.edit e).result ∧ (c.edit e).state.AlikeBut X (c'.edit e).state := by
  obtain ⟨hentropy, hm⟩ := id h
  rw [edit, edit, hm.memory]
  exact ⟨rfl, hentropy, hm.withMemory _⟩

/-- **One operation answers the same on both consoles and keeps them alike.** -/
theorem alike_perform (hkeys : ¬ X .keys) (h : c.AlikeBut X c')
    (hX : ∀ i, c.Executes op i → ∀ a, i.Reads a → ¬ X a) :
    (c'.perform op).result = (c.perform op).result ∧
      (c.perform op).state.AlikeBut X (c'.perform op).state := by
  obtain ⟨hentropy, hm⟩ := id h
  cases op with
  | load program =>
    obtain ⟨hresult, hstate⟩ := hm.load program
    exact ⟨congrArg Answer.ofResult hresult, hentropy, hstate⟩
  | cycle =>
    obtain ⟨hresult, hstate⟩ :=
      alike_cycle h fun i hi => hX i ⟨c.machine, List.mem_singleton_self _, hi⟩
    exact ⟨congrArg Answer.ofResult hresult, hstate⟩
  | run n =>
    obtain ⟨hresult, hstate⟩ := alike_run h fun m hmem i hi => hX i ⟨m, hmem, hi⟩
    exact ⟨congrArg Answer.ofResult hresult, hstate⟩
  | tick => exact ⟨rfl, hentropy, hm.tick⟩
  | press k =>
    obtain ⟨hresult, hstate⟩ := hm.press hkeys k
    exact ⟨congrArg Answer.flag hresult, hentropy, hstate⟩
  | release k =>
    obtain ⟨hresult, hstate⟩ := hm.release hkeys k
    exact ⟨congrArg Answer.flag hresult, hentropy, hstate⟩
  | setRegister k b => exact ⟨rfl, hentropy, hm.setReg k b⟩
  | reset => exact ⟨rfl, hentropy, hm.reset⟩
  | togglePause => exact ⟨rfl, hentropy, hm.togglePause⟩
  | setKeyWait on => exact ⟨rfl, hentropy, hm.setKeyWait on⟩
  | setDialect d => exact ⟨rfl, hentropy, hm.setDialect d⟩
  | edit e => exact alike_edit h e

/-- **A list of operations answers the same on both consoles and keeps them alike.** -/
theorem alike_performAll (hkeys : ¬ X .keys) (h : c.AlikeBut X c')
    (hops : c.Throughout (fun c op => ∀ i, c.Executes op i → ∀ a, i.Reads a → ¬ X a) ops) :
    c'.answers ops = c.answers ops ∧ (c.performAll ops).AlikeBut X (c'.performAll ops) := by
  induction ops generalizing c c' with
  | nil => exact ⟨rfl, h⟩
  | cons op ops ih =>
    obtain ⟨hresult, hstate⟩ := alike_perform hkeys h hops.1
    obtain ⟨hanswers, hend⟩ := ih hstate hops.2
    exact ⟨by rw [answers, answers, hresult, hanswers], hend⟩

/-! ## What a run can tell apart -/

/-- The console with its machine in another dialect. -/
def inDialect (c : Console) (d : Dialect) : Console :=
  { c with machine := { c.machine with flags := { c.machine.flags with dialect := d } } }

/-- **Each detail of the dialect matters to the instructions that ask for it and to nothing else.**
Two consoles differ in their dialects only, and the same is done to both.  As long as no instruction
is executed that asks for a detail in which the dialects differ, all answers are the same, and the
consoles go on differing in their dialects only. -/
theorem dialect_confined {d : Dialect}
    (hops : c.Throughout (fun c' op => ∀ i, c'.Executes op i →
      ∀ q, i.detail? = some q → c.machine.flags.dialect.choice q = d.choice q) ops) :
    (c.inDialect d).answers ops = c.answers ops ∧
      ∃ d', (c.inDialect d).performAll ops = (c.performAll ops).inDialect d' := by
  -- the parts in which the two may differ are the choices in which they do at the start
  let X : Aspect → Prop :=
    fun a => ∃ q, a = .choice q ∧ c.machine.flags.dialect.choice q ≠ d.choice q
  have hstart : c.AlikeBut X (c.inDialect d) := by
    refine ⟨rfl, { c.machine.setting with dialect := d }, rfl, fun a ha => ?_⟩
    cases a with
    | choice q => exact not_not.1 fun hne => ha ⟨q, rfl, Ne.symm hne⟩
    | delay | sound | keys | cycles => rfl
  have hreads : c.Throughout (fun c op => ∀ i, c.Executes op i → ∀ a, i.Reads a → ¬ X a) ops := by
    refine hops.imp fun c' op hP i hi a hread => ?_
    rintro ⟨q, rfl, hne⟩
    exact hne (hP i hi q hread)
  have hother : ∀ a, (∀ q, a ≠ .choice q) → ¬ X a := fun a ha ⟨q, hq, _⟩ => ha q hq
  obtain ⟨hanswers, hentropy, s, hmachine, hs⟩ :=
    alike_performAll (hother .keys nofun) hstart hreads
  have hdelay : s.delay = (c.performAll ops).machine.delay := hs .delay (hother _ nofun)
  have hsound : s.sound = (c.performAll ops).machine.sound := hs .sound (hother _ nofun)
  have hkeys : s.keys = (c.performAll ops).machine.keys := hs .keys (hother _ nofun)
  have hcycles : s.cycles = (c.performAll ops).machine.cycles := hs .cycles (hother _ nofun)
  rw [Machine.inSetting, hdelay, hsound, hkeys, hcycles] at hmachine
  exact ⟨hanswers, s.dialect, congrArg₂ Console.mk hmachine hentropy⟩

set_option maxRecDepth 100000 in
/-- A bitwise operation and a block transfer ask for nothing in which these two dialects differ. -/
theorem dialect_confined_on_or_and_load :
    let c := (powerOn {} ⟨fun _ => 0, 0⟩).performAll
      [.edit (.overwrite 0x200 [0x81, 0x21, 0xf1, 0x65])]
    let d : Dialect := { shiftsInPlace := true, jumpsByNamed := true }
    let ops : List Operation := [.run 2, .tick, .press 3, .cycle, .reset]
    c.Executes (.run 2) (.alu .or 1 2) ∧ c.Executes (.run 2) (.misc .load 1) ∧
      (c.inDialect d).answers ops = c.answers ops ∧
      ∃ d', (c.inDialect d).performAll ops = (c.performAll ops).inDialect d' := by
  intro c d ops
  have h : .alu .or 1 2 ∈ c.executed (.run 2) ∧ .misc .load 1 ∈ c.executed (.run 2) ∧
      c.Throughout (fun c' op => ∀ i, c'.Executes op i →
        ∀ q, i.detail? = some q → c.machine.flags.dialect.choice q = d.choice q) ops := by
    decide +kernel
  obtain ⟨hor, hload, hops⟩ := h
  exact ⟨mem_executed.1 hor, mem_executed.1 hload, dialect_confined hops⟩

/-- The step from one console to another with other timers and another number of cycles: the delay
timer may be another one only where nothing reads it. -/
theorem timers_lockstep (c : Console) (delay sound : UInt8) (cycles : UInt64)
    (hops : delay ≠ c.machine.delay →
      c.Throughout (fun c op => ∀ x, ¬ c.Executes op (.misc .readDelay x)) ops) :
    let c' : Console := { c with machine := { c.machine with delay, sound, cycles } }
    let now := c.performAll ops
    c'.answers ops = c.answers ops ∧
      ∃ delay' sound' cycles',
        c'.performAll ops =
          { now with
            machine := { now.machine with delay := delay', sound := sound', cycles := cycles' } } ∧
        (delay = c.machine.delay → delay' = now.machine.delay) := by
  intro c' now
  let X : Aspect → Prop := fun a =>
    a = .sound ∨ a = .cycles ∨ a = .delay ∧ delay ≠ c.machine.delay
  have hstart : c.AlikeBut X c' := by
    refine ⟨rfl, { c.machine.setting with delay, sound, cycles }, rfl, fun a ha => ?_⟩
    cases a with
    | delay => exact not_not.1 fun hne => ha (.inr (.inr ⟨rfl, hne⟩))
    | sound => exact absurd (.inl rfl) ha
    | cycles => exact absurd (.inr (.inl rfl)) ha
    | choice | keys => rfl
  have hreads : c.Throughout (fun c op => ∀ i, c.Executes op i → ∀ a, i.Reads a → ¬ X a) ops := by
    by_cases hd : delay = c.machine.delay
    · refine throughout_of_forall fun c op i hi a hread => ?_
      rintro (rfl | rfl | ⟨-, hne⟩)
      · exact hread
      · exact hread
      · exact hne hd
    · refine (hops hd).imp fun c op hP i hi a hread => ?_
      rintro (rfl | rfl | ⟨rfl, -⟩)
      · exact hread
      · exact hread
      · obtain ⟨x, rfl⟩ := hread
        exact hP x hi
  have hother : ∀ a, a ≠ .sound → a ≠ .cycles → a ≠ .delay → ¬ X a := by
    rintro a hsound hcycles hdelay (h | h | ⟨h, -⟩)
    · exact hsound h
    · exact hcycles h
    · exact hdelay h
  obtain ⟨hanswers, hentropy, s, hmachine, hs⟩ :=
    alike_performAll (hother .keys nofun nofun nofun) hstart hreads
  have hdialect : s.dialect = now.machine.flags.dialect :=
    Dialect.eq_of_choice fun q => hs (.choice q) (hother _ nofun nofun nofun)
  have hkeys : s.keys = now.machine.keys := hs .keys (hother _ nofun nofun nofun)
  rw [Machine.inSetting, hdialect, hkeys] at hmachine
  refine ⟨hanswers, s.delay, s.sound, s.cycles, congrArg₂ Console.mk hmachine hentropy,
    fun hd => ?_⟩
  refine hs .delay ?_
  rintro (h | h | ⟨-, hne⟩)
  · cases h
  · cases h
  · exact hne hd

/-- **Sound timer and number of cycles matter to nothing.**  Two consoles differ in these only,
and the same is done to both: all answers are the same, and the consoles go on differing in
these only.  If they differ in the delay timer too, so it is as long as the one instruction that
reads it is not executed. -/
theorem timers_unobserved (c : Console) (sound : UInt8) (cycles : UInt64)
    (ops : List Operation) :
    (let c' : Console := { c with machine := { c.machine with sound, cycles } }
      let now := c.performAll ops
      c'.answers ops = c.answers ops ∧ ∃ sound' cycles', c'.performAll ops =
        { now with machine := { now.machine with sound := sound', cycles := cycles' } }) ∧
    ∀ delay : UInt8, c.Throughout (fun c op => ∀ x, ¬ c.Executes op (.misc .readDelay x)) ops →
      let c' : Console := { c with machine := { c.machine with delay, sound, cycles } }
      let now := c.performAll ops
      c'.answers ops = c.answers ops ∧ ∃ delay' sound' cycles', c'.performAll ops =
        { now with
          machine :=
            { now.machine with delay := delay', sound := sound', cycles := cycles' } } := by
  refine ⟨?_, fun delay hops => ?_⟩
  · intro c' now
    have hsame : c.machine.delay ≠ c.machine.delay →
        c.Throughout (fun c op => ∀ x, ¬ c.Executes op (.misc .readDelay x)) ops :=
      fun hne => absurd rfl hne
    obtain ⟨hanswers, delay', sound', cycles', hend, hdelay⟩ :=
      timers_lockstep c c.machine.delay sound cycles hsame
    rw [hdelay rfl] at hend
    exact ⟨hanswers, sound', cycles', hend⟩
  · obtain ⟨hanswers, delay', sound', cycles', hend, -⟩ :=
      timers_lockstep c delay sound cycles fun _ => hops
    exact ⟨hanswers, delay', sound', cycles', hend⟩

set_option maxRecDepth 100000 in
/-- A program that sets both timers and then meets a word that is no instruction. -/
theorem timers_unobserved_of_setters :
    let c := (powerOn {} ⟨fun _ => 0, 0⟩).performAll
      [.edit (.overwrite 0x200 [0xf1, 0x15, 0xf2, 0x18])]
    let c' : Console :=
      { c with machine := { c.machine with delay := 9, sound := 7, cycles := 100 } }
    let ops : List Operation := [.tick, .run 2, .press 3, .cycle]
    let now := c.performAll ops
    c'.answers ops = [.done, .done, .flag true, .failed (.unknownOpcode 0 0x204)] ∧
      ∃ delay' sound' cycles', c'.performAll ops =
        { now with
          machine :=
            { now.machine with delay := delay', sound := sound', cycles := cycles' } } := by
  intro c c' ops now
  have h : c.answers ops = [.done, .done, .flag true, .failed (.unknownOpcode 0 0x204)] ∧
      c.Throughout (fun c op => ∀ i, c.Executes op i →
        i ∈ [.misc .setDelay 1, .misc .setSound 2]) ops := by
    decide +kernel
  obtain ⟨hanswers, hexecuted⟩ := h
  have hops : c.Throughout (fun c op => ∀ x, ¬ c.Executes op (.misc .readDelay x)) ops :=
    hexecuted.imp fun _ _ hi x hx => by simpa using hi _ hx
  obtain ⟨hsame, hend⟩ := (timers_unobserved c 7 100 ops).2 9 hops
  exact ⟨hsame.trans hanswers, hend⟩

end Console

end Chip8
