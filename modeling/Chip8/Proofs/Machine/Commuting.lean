import Chip8.Proofs.Machine.Independence
import Chip8.Proofs.Machine.Writes

/-!
# Ticks and keys beside the cycles

Timers count down and keys go up and down at a pace of their own, so on which side of a cycle a
tick or a key falls is left to chance.  It hardly ever matters.  A tick or a key only moves
some parts of the setting, and a cycle that neither looks at these parts nor changes them does
the same before and after.

## What is here

* `Setting.Moves` — a way of changing settings that reaches some parts of them only; ticks
  (`moves_tick`) and keys (`moves_setKey`) are such ways.
* `Machine.cycle_moved` — a cycle in the setting moved leaves what the cycle in the
  old setting leaves, moved.
* `Word.ReadsDelay`, `Word.ReadsKeys` — the words that look at the delay timer and at the keys.
* `Console.Commutes` — two operations may change places, and `commutes_cycle_of_moves`, when
  something may change places with a cycle.
* `commutes_tick_cycle`, `commutes_release_cycle`, `commutes_press_cycle` — the three of them, and
  `Console.cycle_commutes`, all together.
-/

set_option autoImplicit false

namespace Chip8

/-! ## Moving a setting -/

namespace Setting

/-- `f` goes part by part, and changes no part of a setting but those in `X`. -/
structure Moves (X : Aspect → Prop) (f : Setting → Setting) : Prop where
  /-- Each part becomes what depends on that part alone. -/
  partwise : Partwise f
  /-- The parts out of reach. -/
  outside : ∀ s a, ¬ X a → (f s).SameIn s a

theorem moves_tick : Moves (fun a => a = .delay ∨ a = .sound) tick where
  partwise := partwise_tick
  outside s a ha := by
    cases a with
    | delay => exact absurd (.inl rfl) ha
    | sound => exact absurd (.inr rfl) ha
    | choice | keys | cycles => rfl

theorem moves_setKey (k : Nat) (down : Bool) : Moves (· = .keys) (·.setKey k down) where
  partwise := partwise_setKey k down
  outside s a ha := by
    cases a with
    | keys => exact absurd rfl ha
    | choice | delay | sound | cycles => rfl

end Setting

namespace Machine

variable {m : Machine} {random : UInt8} {X : Aspect → Prop} {f : Setting → Setting}

/-- The machine with its setting changed. -/
def moved (m : Machine) (f : Setting → Setting) : Machine := m.inSetting (f m.setting)

/-- A machine differs from itself moved in no part that is out of reach. -/
theorem alikeBut_moved (hf : Setting.Moves X f) (m : Machine) : AlikeBut X m (m.moved f) :=
  ⟨f m.setting, rfl, hf.outside m.setting⟩

/-- **A cycle in the setting moved** leaves what the cycle in the old setting leaves, moved: if it
looks at no part that may have moved, and leaves these parts as it finds them. -/
theorem cycle_moved (hf : Setting.Moves X f)
    (hreads : ∀ i, m.Executes i → ∀ a, i.Reads a → ¬ X a)
    (hkeeps : ∀ s a, X a → ((m.inSetting s).cycle random).state.setting.SameIn s a) :
    ((m.moved f).cycle random).state = (m.cycle random).state.moved f := by
  obtain ⟨t, ht, hsame⟩ := (alikeBut_moved hf m).cycle hreads random
  have hmoved : t = f (m.cycle random).state.setting := by
    refine Setting.eq_of_sameIn fun a => ?_
    by_cases ha : X a
    · -- a part that may have moved is what it was before the cycle, in either setting
      have hnew : t.SameIn (f m.setting) a := by
        have := hkeeps (f m.setting) a ha
        rwa [show m.inSetting (f m.setting) = m.moved f from rfl, ht, setting_inSetting] at this
      have hold : (m.cycle random).state.setting.SameIn m.setting a := hkeeps m.setting a ha
      exact hnew.trans (hf.partwise _ _ a hold.symm)
    · exact (hsame a ha).trans (hf.outside _ a ha).symm
  rw [ht, hmoved, moved]

end Machine

/-! ## Words that look at timers and keys -/

namespace Word

/-- `Fx07` looks at the delay timer. -/
def ReadsDelay (w : UInt16) : Prop := kind w = 0xf ∧ byte w = 0x07

/-- `Ex9E` and `ExA1` look at the keys. -/
def ReadsKeys (w : UInt16) : Prop := kind w = 0xe ∧ (byte w = 0x9e ∨ byte w = 0xa1)

end Word

namespace Machine

variable {m : Machine} {x : UInt64}

theorem parts_of_executes_misc {op : MiscOp} (h : m.Executes (.misc op x)) :
    Word.kind m.word = 0xf ∧ Word.byte m.word = op.code := by
  obtain ⟨-, -, hw, -⟩ := executes_iff.1 h
  obtain ⟨hk, hb, -⟩ := Instruction.parts_of_decode?_misc hw
  exact ⟨hk, hb⟩

theorem readsKeys_of_executes {op : KeyOp} (h : m.Executes (.key op x)) :
    Word.ReadsKeys m.word := by
  obtain ⟨-, -, hw, -⟩ := executes_iff.1 h
  obtain ⟨hk, hb⟩ := Instruction.parts_of_decode?_key hw
  refine ⟨hk, ?_⟩
  cases op with
  | skipHeld => exact .inl hb
  | skipFree => exact .inr hb

/-- Timers stand still during a cycle, unless the machine is awake and the word sets one. -/
theorem timers_cycle
    (h : ¬ (m.flags.isPaused = false ∧ (Word.WritesDelay m.word ∨ Word.WritesSound m.word)))
    (random : UInt8) :
    (m.cycle random).state.delay = m.delay ∧ (m.cycle random).state.sound = m.sound := by
  cases hp : m.flags.isPaused with
  | true =>
    rw [Machine.cycle, if_pos hp]
    exact ⟨rfl, rfl⟩
  | false =>
    have hframe := m.framed_cycle random
    exact ⟨hframe.delay fun hw => h ⟨hp, .inl hw⟩, hframe.sound fun hw => h ⟨hp, .inr hw⟩⟩

end Machine

/-! ## Changing places -/

namespace Console

variable {c : Console} {op : Operation} {X : Aspect → Prop} {f : Setting → Setting}

/-- The operations may change places: each answers the same before the other and after it, and the
console is the same in the end. -/
structure Commutes (c : Console) (op op' : Operation) : Prop where
  /-- The first one answers the same. -/
  first : ((c.perform op').state.perform op).result = (c.perform op).result
  /-- The second one answers the same. -/
  second : ((c.perform op).state.perform op').result = (c.perform op').result
  /-- The console is the same. -/
  state : ((c.perform op).state.perform op').state = ((c.perform op').state.perform op).state

/-- The console with the setting of its machine changed. -/
def moved (c : Console) (f : Setting → Setting) : Console :=
  { c with machine := c.machine.moved f }

/-- **What only moves parts of the setting may change places with a cycle** that neither looks at
these parts nor changes them. -/
theorem commutes_cycle_of_moves (hf : Setting.Moves X f)
    (hbefore : (c.perform op).state = c.moved f)
    (hafter : (c.cycle.state.perform op).state = c.cycle.state.moved f)
    (hresult : (c.cycle.state.perform op).result = (c.perform op).result)
    (hreads : ∀ i, c.machine.Executes i → ∀ a, i.Reads a → ¬ X a)
    (hkeeps : ∀ random s a, X a →
      ((c.machine.inSetting s).cycle random).state.setting.SameIn s a) :
    c.Commutes op .cycle := by
  have halike : c.AlikeBut X (c.moved f) := ⟨rfl, Machine.alikeBut_moved hf c.machine⟩
  obtain ⟨hcycle, hentropy, -⟩ := alike_cycle halike hreads
  have hmachine : (c.moved f).cycle.state.machine = c.cycle.state.machine.moved f :=
    Machine.cycle_moved hf hreads (hkeeps _)
  refine ⟨hresult, ?_, ?_⟩
  · rw [hbefore]
    exact congrArg Answer.ofResult hcycle
  · rw [hbefore, show (c.perform .cycle).state = c.cycle.state from rfl, hafter]
    exact congrArg₂ Console.mk hmachine hentropy

/-- What only moves a key may change places with a cycle whose word looks at no key. -/
theorem commutes_cycle_of_setKey {k : Nat} {down : Bool}
    (hbefore : (c.perform op).state = c.moved (·.setKey k down))
    (hafter : (c.cycle.state.perform op).state = c.cycle.state.moved (·.setKey k down))
    (hresult : (c.cycle.state.perform op).result = (c.perform op).result)
    (hw : ¬ (c.machine.flags.isPaused = false ∧ Word.ReadsKeys c.machine.word)) :
    c.Commutes op .cycle := by
  refine commutes_cycle_of_moves (Setting.moves_setKey k down) hbefore hafter hresult ?_ ?_
  · rintro i hi a hread rfl
    obtain ⟨op, x, rfl⟩ := hread
    exact hw ⟨hi.awake, Machine.readsKeys_of_executes hi⟩
  · rintro random s a rfl
    exact Machine.keys_cycle (c.machine.inSetting s) random

theorem commutes_tick_cycle
    (hw : ¬ (c.machine.flags.isPaused = false ∧ (Word.ReadsDelay c.machine.word ∨
      Word.WritesDelay c.machine.word ∨ Word.WritesSound c.machine.word))) :
    c.Commutes .tick .cycle := by
  refine commutes_cycle_of_moves Setting.moves_tick rfl rfl rfl ?_ ?_
  · rintro i hi a hread (rfl | rfl)
    · obtain ⟨x, rfl⟩ := hread
      exact hw ⟨hi.awake, .inl (Machine.parts_of_executes_misc hi)⟩
    · exact hread
  · intro random s
    obtain ⟨hdelay, hsound⟩ := Machine.timers_cycle (m := c.machine.inSetting s)
      (fun h => hw ⟨h.1, .inr h.2⟩) random
    rintro a (rfl | rfl)
    · exact hdelay
    · exact hsound

theorem commutes_release_cycle
    (hw : ¬ (c.machine.flags.isPaused = false ∧ Word.ReadsKeys c.machine.word)) (k : Nat) :
    c.Commutes (.release k) .cycle := by
  have hstate (c : Console) : (c.perform (.release k)).state = c.moved (·.setKey k false) :=
    congrArg (Console.mk · c.entropy) (c.machine.state_release_eq_setKey k)
  refine commutes_cycle_of_setKey (hstate c) (hstate c.cycle.state) (congrArg Answer.flag ?_) hw
  rw [Machine.result_release, Machine.result_release, held_cycle]

/-- During a key wait a press is more than a key: it ends the wait.  So there must be none on either
side of the cycle. -/
theorem commutes_press_cycle (hwait : c.machine.flags.keyWait = false)
    (hw : ¬ (c.machine.flags.isPaused = false ∧
      (Word.ReadsKeys c.machine.word ∨ Word.WritesKeyWait c.machine.word))) (k : Nat) :
    c.Commutes (.press k) .cycle := by
  have hstate (c : Console) (hwait : c.machine.flags.keyWait = false) :
      (c.perform (.press k)).state = c.moved (·.setKey k true) :=
    congrArg (Console.mk · c.entropy) (Machine.state_press_eq_setKey hwait k)
  have hwait' : c.cycle.state.machine.flags.keyWait = false :=
    Machine.keyWait_cycle hwait _ fun x hx =>
      hw ⟨hx.awake, .inr (Machine.parts_of_executes_misc hx)⟩
  refine commutes_cycle_of_setKey (hstate c hwait) (hstate c.cycle.state hwait')
    (congrArg Answer.flag ?_) fun h => hw ⟨h.1, .inl h.2⟩
  rw [Machine.result_press, Machine.result_press, held_cycle]

/-- **Ticks and keys may change places with a cycle**, whatever the cycle does, fails to do or does
not do because the machine is paused.  What the machine must not be about to execute is, for a tick,
an instruction that reads or sets a timer; for a release, one that looks at a key; and for a press,
which must find no key wait, one that looks at a key or begins a key wait. -/
theorem cycle_commutes (c : Console) :
    let w := c.machine.word
    let awake := c.machine.flags.isPaused = false
    (¬ (awake ∧ (Word.ReadsDelay w ∨ Word.WritesDelay w ∨ Word.WritesSound w)) →
      c.Commutes .tick .cycle) ∧
    (¬ (awake ∧ Word.ReadsKeys w) → ∀ k, c.Commutes (.release k) .cycle) ∧
    (c.machine.flags.keyWait = false → ¬ (awake ∧ (Word.ReadsKeys w ∨ Word.WritesKeyWait w)) →
      ∀ k, c.Commutes (.press k) .cycle) :=
  ⟨commutes_tick_cycle, commutes_release_cycle, commutes_press_cycle⟩

set_option maxRecDepth 100000 in
/-- Where a register is about to take the delay timer, a key may change places with the cycle and a
tick may not; where a key is about to be looked at, a tick may and this key may not. -/
theorem cycle_commutes_around_timer_and_key :
    let c := (powerOn {} ⟨fun _ => 0, 0⟩).performAll
      [.edit (.overwrite 0x200 [0x61, 0x05, 0xf1, 0x15, 0xf2, 0x07, 0xe1, 0x9e]), .run 2]
    let c' := c.cycle.state
    (c.Commutes (.release 5) .cycle ∧ c.Commutes (.press 5) .cycle ∧ ¬ c.Commutes .tick .cycle) ∧
      c'.Commutes .tick .cycle ∧ ¬ c'.Commutes (.press 5) .cycle := by
  intro c c'
  have h : c.machine.flags.keyWait = false ∧ c.machine.word = 0xf207 ∧ c'.machine.word = 0xe19e ∧
      ((c.perform .tick).state.perform .cycle).state.machine.reg 2 ≠
        ((c.perform .cycle).state.perform .tick).state.machine.reg 2 ∧
      ((c'.perform (.press 5)).state.perform .cycle).state.machine.pc ≠
        ((c'.perform .cycle).state.perform (.press 5)).state.machine.pc := by
    decide +kernel
  obtain ⟨hwait, hword, hword', hreg, hpc⟩ := h
  obtain ⟨-, hrelease, hpress⟩ := cycle_commutes c
  obtain ⟨htick, -, -⟩ := cycle_commutes c'
  rw [hword] at hrelease hpress
  rw [hword'] at htick
  refine ⟨⟨hrelease ?_ 5, hpress hwait ?_ 5, ?_⟩, htick ?_, ?_⟩
  · exact fun hw => absurd hw.2.1 (by decide)
  · rintro ⟨-, hw | hw⟩
    · exact absurd hw.1 (by decide)
    · exact absurd hw.2 (by decide)
  · exact fun h => hreg (congrArg (fun c => c.machine.reg 2) h.state)
  · rintro ⟨-, hw | hw | hw⟩
    all_goals exact absurd hw.1 (by decide)
  · exact fun h => hpc (congrArg (fun c => c.machine.pc) h.state)

end Console

end Chip8
