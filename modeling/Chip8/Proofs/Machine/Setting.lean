import Chip8.Proofs.Machine.Faults
import Chip8.Proofs.Machine.Frame

/-!
# Machines in different settings

Dialect, timers, keys and the number of cycles are the setting in which a program runs.  Hardly any
instruction looks at it: in each detail of the dialect a few do, one looks at the delay timer,
two look at the keys, and none at the sound timer or the number of cycles.  Two machines that
differ in their settings only do the same, as long as they execute no instruction that looks at a
part in which they differ.

## What is here

* `Dialect.Detail`, `Instruction.detail?` — the details in which dialects differ, and the one that
  an instruction asks for.
* `Setting`, `Aspect` — the setting of a machine and its parts; `Instruction.Reads` — the parts that
  an instruction looks at.
* `Setting.SameIn`, `Setting.Partwise` — what two settings have in common, and the ways of
  changing both that leave it so.
* `Machine.execute_inSetting` — an instruction executed in another setting.
* `Machine.AlikeBut` — two machines that differ at most in some parts of their settings;
  `AlikeBut.execute` and `AlikeBut.cycle`, that instructions and cycles keep it so.
-/

set_option autoImplicit false

namespace Chip8

/-! ## Dialects in detail -/

/-- A detail in which dialects differ. -/
inductive Dialect.Detail where
  /-- What bitwise operations do to the flag register. -/
  | flag
  /-- Which register shifts take. -/
  | source
  /-- What block transfers do to the index. -/
  | index
  /-- Which register indexed jumps add. -/
  | offset
  deriving DecidableEq, Repr

/-- The choice of a dialect in a detail. -/
def Dialect.choice (d : Dialect) : Detail → Bool
  | .flag => d.keepsFlag
  | .source => d.shiftsInPlace
  | .index => d.keepsIndex
  | .offset => d.jumpsByNamed

/-- A dialect is the sum of its choices. -/
theorem Dialect.eq_of_choice {d e : Dialect} (h : ∀ q, d.choice q = e.choice q) : d = e := by
  have hflag := h .flag
  have hsource := h .source
  have hindex := h .index
  have hoffset := h .offset
  cases d
  cases e
  simp_all only [choice]

/-- The detail that an instruction asks for: `8xy1` to `8xy3`, `8xy6` and `8xyE`, `Fx55` and `Fx65`,
and `Bnnn` ask for one each. -/
def Instruction.detail? : Instruction → Option Dialect.Detail
  | .alu .or _ _ | .alu .and _ _ | .alu .xor _ _ => some .flag
  | .alu .shiftRight _ _ | .alu .shiftLeft _ _ => some .source
  | .misc .store _ | .misc .load _ => some .index
  | .jumpOffset _ => some .offset
  | _ => none

/-! ## Settings -/

/-- The parts of a machine that hardly any instruction looks at. -/
structure Setting where
  /-- The dialect. -/
  dialect : Dialect
  /-- The delay timer. -/
  delay : UInt8
  /-- The sound timer. -/
  sound : UInt8
  /-- The keys. -/
  keys : Vector Bool 16
  /-- The number of cycles. -/
  cycles : UInt64

/-- A part of the setting. -/
inductive Aspect where
  /-- What the dialect chooses in a detail. -/
  | choice (q : Dialect.Detail)
  /-- The delay timer. -/
  | delay
  /-- The sound timer. -/
  | sound
  /-- The keys. -/
  | keys
  /-- The number of cycles. -/
  | cycles
  deriving DecidableEq, Repr

/-- The instruction looks at this part of the setting. -/
def Instruction.Reads (i : Instruction) : Aspect → Prop
  | .choice q => i.detail? = some q
  | .delay => ∃ x, i = .misc .readDelay x
  | .keys => ∃ op x, i = .key op x
  | .sound | .cycles => False

/-- Two settings have the same in one part. -/
def Setting.SameIn (s t : Setting) : Aspect → Prop
  | .choice q => s.dialect.choice q = t.dialect.choice q
  | .delay => s.delay = t.delay
  | .sound => s.sound = t.sound
  | .keys => s.keys = t.keys
  | .cycles => s.cycles = t.cycles

namespace Setting

variable {s t : Setting} {a : Aspect}

/-- One more cycle is counted. -/
def counted (s : Setting) : Setting := { s with cycles := s.cycles + 1 }

/-- Both timers count down, as far as zero. -/
def tick (s : Setting) : Setting :=
  { s with
    delay := if s.delay = 0 then 0 else s.delay - 1
    sound := if s.sound = 0 then 0 else s.sound - 1 }

/-- A key is held or not. -/
def setKey (s : Setting) (k : Nat) (down : Bool) : Setting :=
  { s with keys := s.keys.setIfInBounds k down }

theorem SameIn.refl (s : Setting) (a : Aspect) : s.SameIn s a := by
  cases a <;> rfl

theorem SameIn.symm (h : s.SameIn t a) : t.SameIn s a := by
  cases a <;> exact Eq.symm h

theorem SameIn.trans {r : Setting} (h : s.SameIn t a) (h' : t.SameIn r a) : s.SameIn r a := by
  cases a <;> exact Eq.trans h h'

/-- A setting is the sum of its parts. -/
theorem eq_of_sameIn (h : ∀ a, s.SameIn t a) : s = t := by
  have hdialect : s.dialect = t.dialect := Dialect.eq_of_choice fun q => h (.choice q)
  have hdelay : s.delay = t.delay := h .delay
  have hsound : s.sound = t.sound := h .sound
  have hkeys : s.keys = t.keys := h .keys
  have hcycles : s.cycles = t.cycles := h .cycles
  cases s
  cases t
  simp_all only

/-- `f` makes of each part of a setting what depends on that part alone. -/
def Partwise (f : Setting → Setting) : Prop := ∀ s t a, s.SameIn t a → (f s).SameIn (f t) a

theorem partwise_id : Partwise id := fun _ _ _ h => h

theorem partwise_counted : Partwise counted := by
  intro s t a h
  cases a with
  | cycles => exact congrArg (· + 1) h
  | choice | delay | sound | keys => exact h

theorem partwise_tick : Partwise tick := by
  intro s t a h
  cases a with
  | delay | sound => exact congrArg (fun b : UInt8 => if b = 0 then 0 else b - 1) h
  | choice | keys | cycles => exact h

theorem partwise_setKey (k : Nat) (down : Bool) : Partwise (·.setKey k down) := by
  intro s t a h
  cases a with
  | keys => exact congrArg (fun keys : Vector Bool 16 => keys.setIfInBounds k down) h
  | choice | delay | sound | cycles => exact h

theorem partwise_setDialect (d : Dialect) : Partwise ({ · with dialect := d }) := by
  intro s t a h
  cases a with
  | choice q => rfl
  | delay | sound | keys | cycles => exact h

end Setting

variable {s t : Setting} {a : Aspect}

/-- The outcome with its state changed. -/
def Outcome.mapState {σ α : Type} (f : σ → σ) (o : Outcome σ α) : Outcome σ α :=
  { o with state := f o.state }

namespace Machine

variable {m n : Machine} {i : Instruction} {random : UInt8}

/-- The setting of a machine. -/
def setting (m : Machine) : Setting := ⟨m.flags.dialect, m.delay, m.sound, m.keys, m.cycles⟩

/-- The machine in another setting. -/
def inSetting (m : Machine) (s : Setting) : Machine :=
  { m with
    flags := { m.flags with dialect := s.dialect }
    delay := s.delay, sound := s.sound, keys := s.keys, cycles := s.cycles }

@[simp] theorem inSetting_setting (m : Machine) : m.inSetting m.setting = m := rfl

@[simp] theorem setting_inSetting (m : Machine) (s : Setting) : (m.inSetting s).setting = s := rfl

/-! ## Instructions in another setting

What is read from the setting is the same in both, so everything else that the instruction does
is. -/

theorem skipIf_inSetting (m : Machine) (s : Setting) (c : Bool) :
    (m.inSetting s).skipIf c = (m.skipIf c).inSetting s := by
  cases c <;> rfl

theorem setBitwise_inSetting (h : s.SameIn m.setting (.choice .flag)) (x : Nat) (b : UInt8) :
    (m.inSetting s).setBitwise x b = (m.setBitwise x b).inSetting s := by
  have hkeep : (m.inSetting s).flags.dialect.keepsFlag = m.flags.dialect.keepsFlag := h
  rw [setBitwise, setBitwise, hkeep]
  split <;> rfl

theorem alu_inSetting {op : AluOp} {x y : UInt64}
    (h : ∀ a, (Instruction.alu op x y).Reads a → s.SameIn m.setting a) (j k : Nat) :
    (m.inSetting s).alu op j k = (m.alu op j k).inSetting s := by
  cases op with
  | or | and | xor => exact setBitwise_inSetting (h (.choice .flag) rfl) _ _
  | shiftRight | shiftLeft =>
    have hsource : (m.inSetting s).flags.dialect.shiftsInPlace = m.flags.dialect.shiftsInPlace :=
      h (.choice .source) rfl
    simp only [alu, hsource]
    rfl
  | copy | add | sub | subFrom => rfl

theorem jumpOffset_inSetting (h : s.SameIn m.setting (.choice .offset)) (b : UInt16) :
    (m.inSetting s).jumpOffset b = (m.jumpOffset b).inSetting s := by
  have hnamed : (m.inSetting s).flags.dialect.jumpsByNamed = m.flags.dialect.jumpsByNamed := h
  simp only [jumpOffset, hnamed]
  rfl

theorem afterTransfer_inSetting (h : s.SameIn m.setting (.choice .index)) (x : Nat) :
    (m.inSetting s).afterTransfer x = (m.afterTransfer x).inSetting s := by
  have hkeep : (m.inSetting s).flags.dialect.keepsIndex = m.flags.dialect.keepsIndex := h
  rw [afterTransfer, afterTransfer, hkeep]
  split <;> rfl

theorem namedKeyHeld_inSetting (h : s.SameIn m.setting .keys) (x : Nat) :
    (m.inSetting s).namedKeyHeld x = m.namedKeyHeld x := by
  have hkeys : (m.inSetting s).keys = m.keys := h
  rw [namedKeyHeld, namedKeyHeld, held, held, hkeys]
  rfl

/-- What an instruction makes of a setting: two of them set a timer, to what `m` has in a
register. -/
def settled (m : Machine) (i : Instruction) (s : Setting) : Setting :=
  match i with
  | .misc .setDelay x => { s with delay := m.reg x.toNat }
  | .misc .setSound x => { s with sound := m.reg x.toNat }
  | _ => s

theorem partwise_settled (m : Machine) (i : Instruction) : Setting.Partwise (m.settled i) := by
  intro s t a h
  unfold Machine.settled
  split
  · cases a with
    | delay => rfl
    | choice | sound | keys | cycles => exact h
  · cases a with
    | sound => rfl
    | choice | delay | keys | cycles => exact h
  · exact h

theorem draw_inSetting (m : Machine) (s : Setting) (x y len : Nat) :
    (m.inSetting s).draw x y len = (m.draw x y len).mapState (·.inSetting s) := by
  have hrows : (m.inSetting s).memory.range (m.inSetting s).index.toNat len =
      m.memory.range m.index.toNat len := rfl
  rw [draw, draw, hrows]
  cases m.memory.range m.index.toNat len <;> rfl

theorem storeDigits_inSetting (m : Machine) (s : Setting) (x : Nat) :
    (m.inSetting s).storeDigits x = (m.storeDigits x).mapState (·.inSetting s) := by
  have hmemory : (m.inSetting s).memory.overwrite (m.inSetting s).index.toNat
      (decimalDigits ((m.inSetting s).reg x)) =
      m.memory.overwrite m.index.toNat (decimalDigits (m.reg x)) := rfl
  rw [storeDigits, storeDigits, hmemory]
  rfl

theorem storeRegisters_inSetting (h : s.SameIn m.setting (.choice .index)) (x : Nat) :
    (m.inSetting s).storeRegisters x = (m.storeRegisters x).mapState (·.inSetting s) := by
  have hmemory : (m.inSetting s).memory.overwrite (m.inSetting s).index.toNat
      ((m.inSetting s).registers.toList.take (x + 1)) =
      m.memory.overwrite m.index.toNat (m.registers.toList.take (x + 1)) := rfl
  have hstored : ∀ memory, ({ m.inSetting s with memory } : Machine).afterTransfer x =
      (({ m with memory } : Machine).afterTransfer x).inSetting s :=
    fun memory => afterTransfer_inSetting (m := { m with memory }) h x
  rw [storeRegisters, storeRegisters, hmemory]
  split
  · rfl
  · exact congrArg Outcome.done (hstored _)

theorem loadRegisters_inSetting (h : s.SameIn m.setting (.choice .index)) (x : Nat) :
    (m.inSetting s).loadRegisters x = (m.loadRegisters x).mapState (·.inSetting s) := by
  have hbytes : (m.inSetting s).memory.range (m.inSetting s).index.toNat (x + 1) =
      m.memory.range m.index.toNat (x + 1) := rfl
  rw [loadRegisters, loadRegisters, hbytes]
  cases m.memory.range m.index.toNat (x + 1) with
  | error f => rfl
  | ok bytes =>
    have hloaded : ∀ registers, ({ m.inSetting s with registers } : Machine).afterTransfer x =
        (({ m with registers } : Machine).afterTransfer x).inSetting s :=
      fun registers => afterTransfer_inSetting (m := { m with registers }) h x
    exact congrArg Outcome.done (hloaded _)

theorem misc_inSetting {op : MiscOp} {x : UInt64}
    (h : ∀ a, (Instruction.misc op x).Reads a → s.SameIn m.setting a) :
    (m.inSetting s).misc op x =
      (m.misc op x).mapState (·.inSetting (m.settled (.misc op x) s)) := by
  cases op with
  | readDelay =>
    have hdelay : (m.inSetting s).delay = m.delay := h .delay ⟨x, rfl⟩
    rw [misc, hdelay]
    rfl
  | digits => exact storeDigits_inSetting m s _
  | store => exact storeRegisters_inSetting (h (.choice .index) rfl) _
  | load => exact loadRegisters_inSetting (h (.choice .index) rfl) _
  | waitKey | setDelay | setSound | addIndex | glyph => rfl

/-- **An instruction in another setting** does the same and answers the same, if it finds there what
it looks at.  The setting stays as it is, unless the instruction sets a timer. -/
theorem execute_inSetting (h : ∀ a, i.Reads a → s.SameIn m.setting a) (random : UInt8) :
    (m.inSetting s).execute random i =
      (m.execute random i).mapState (·.inSetting (m.settled i s)) := by
  cases i with
  | system op =>
    cases op with
    | clearScreen => rfl
    | ret =>
      have hstack : (m.inSetting s).stack = m.stack := rfl
      rw [execute, execute, ret, ret, hstack]
      cases m.stack <;> rfl
  | call a =>
    have hstack : (m.inSetting s).stack = m.stack := rfl
    rw [execute, execute, call, call, hstack]
    split <;> rfl
  | skipEqByte | skipNeByte | skipEq | skipNe =>
    exact congrArg Outcome.done (skipIf_inSetting m s _)
  | alu op x y => exact congrArg Outcome.done (alu_inSetting h _ _)
  | jumpOffset b => exact congrArg Outcome.done (jumpOffset_inSetting (h (.choice .offset) rfl) b)
  | draw x y len => exact draw_inSetting m s _ _ _
  | key op x =>
    have hheld := namedKeyHeld_inSetting (h .keys ⟨op, x, rfl⟩) x.toNat
    cases op with
    | skipHeld =>
      rw [execute, hheld]
      exact congrArg Outcome.done (skipIf_inSetting m s _)
    | skipFree =>
      rw [execute, hheld]
      exact congrArg Outcome.done (skipIf_inSetting m s _)
  | misc op x => exact misc_inSetting h
  | jump | setByte | addByte | setIndex | random => rfl

/-- What an instruction makes of the machine's own setting. -/
theorem setting_execute (m : Machine) (random : UInt8) (i : Instruction) :
    (m.execute random i).state.setting = m.settled i m.setting := by
  have hself := execute_inSetting (i := i) (fun a _ => Setting.SameIn.refl m.setting a) random
  rw [inSetting_setting] at hself
  exact congrArg (fun o => o.state.setting) hself

/-! ## Machines that differ in their settings only -/

/-- The machines differ at most in the parts of their settings that are in `X`. -/
def AlikeBut (X : Aspect → Prop) (m n : Machine) : Prop :=
  ∃ s, n = m.inSetting s ∧ ∀ a, ¬ X a → s.SameIn m.setting a

variable {X : Aspect → Prop}

theorem AlikeBut.symm (h : AlikeBut X m n) : AlikeBut X n m := by
  obtain ⟨s, rfl, hs⟩ := h
  exact ⟨m.setting, rfl, fun a ha => (hs a ha).symm⟩

theorem AlikeBut.trans {l : Machine} (h : AlikeBut X l m) (h' : AlikeBut X m n) :
    AlikeBut X l n := by
  obtain ⟨s, rfl, hs⟩ := h
  obtain ⟨t, rfl, ht⟩ := h'
  exact ⟨t, rfl, fun a ha => (ht a ha).trans (hs a ha)⟩

/-- **An instruction keeps machines alike**, if it looks at no part in which they may differ. -/
theorem AlikeBut.execute (h : AlikeBut X m n) (hi : ∀ a, i.Reads a → ¬ X a) (random : UInt8) :
    AlikeBut X (m.execute random i).state (n.execute random i).state := by
  obtain ⟨s, rfl, hs⟩ := h
  have hexec := execute_inSetting (m := m) (fun a ha => hs a (hi a ha)) random
  refine ⟨m.settled i s, congrArg Outcome.state hexec, fun a ha => ?_⟩
  rw [setting_execute]
  exact partwise_settled m i _ _ a (hs a ha)

/-- What is done to a machine in one way apart from its setting, and to the setting part by part,
keeps machines alike. -/
theorem AlikeBut.map (h : AlikeBut X m n) {f : Machine → Machine} {g : Setting → Setting}
    (hf : ∀ m s, f (m.inSetting s) = (f m).inSetting (g s)) (hg : Setting.Partwise g) :
    AlikeBut X (f m) (f n) := by
  obtain ⟨s, rfl, hs⟩ := h
  have hself : (f m).setting = g m.setting := congrArg setting (hf m m.setting)
  refine ⟨g s, hf m s, fun a ha => ?_⟩
  rw [hself]
  exact hg _ _ a (hs a ha)

theorem AlikeBut.stepPast (h : AlikeBut X m n) : AlikeBut X m.stepPast n.stepPast :=
  h.map (fun _ _ => rfl) Setting.partwise_id

theorem AlikeBut.counted (h : AlikeBut X m n) : AlikeBut X m.counted n.counted :=
  h.map (fun _ _ => rfl) Setting.partwise_counted

theorem AlikeBut.isPaused (h : AlikeBut X m n) : n.flags.isPaused = m.flags.isPaused := by
  obtain ⟨s, rfl, -⟩ := h
  rfl

theorem AlikeBut.cycleFault (h : AlikeBut X m n) : n.cycleFault = m.cycleFault := by
  obtain ⟨s, rfl, -⟩ := h
  rfl

theorem AlikeBut.executes_iff (h : AlikeBut X m n) : n.Executes i ↔ m.Executes i := by
  obtain ⟨s, rfl, -⟩ := h
  rw [Machine.executes_iff, Machine.executes_iff]
  rfl

/-- Whether the next cycle fails, and how, does not depend on the setting. -/
theorem AlikeBut.result_cycle (h : AlikeBut X m n) (random : UInt8) :
    (n.cycle random).result = (m.cycle random).result := by
  rw [Machine.result_cycle, Machine.result_cycle, h.cycleFault]

/-- **A cycle keeps machines alike**, if it executes no instruction that looks at a part in
which they may differ. -/
theorem AlikeBut.cycle (h : AlikeBut X m n)
    (hX : ∀ i, m.Executes i → ∀ a, i.Reads a → ¬ X a) (random : UInt8) :
    AlikeBut X (m.cycle random).state (n.cycle random).state := by
  have hres := h.result_cycle random
  cases hr : (m.cycle random).result with
  | error f =>
    rw [hr] at hres
    cases hf : f.isRecoverable with
    | false =>
      rw [(state_of_unrecoverable hr hf).1, (state_of_unrecoverable hres hf).1]
      exact h
    | true =>
      cases f with
      | unknownOpcode w a =>
        rw [(state_of_unknownOpcode hr).2.2.2, (state_of_unknownOpcode hres).2.2.2]
        exact h.stepPast.counted
      | outOfBounds | programTooLarge | stackOverflow | stackUnderflow | unknownPlatform => cases hf
  | ok u =>
    cases hp : m.flags.isPaused with
    | true =>
      have hp' : n.flags.isPaused = true := h.isPaused.trans hp
      rw [Machine.cycle, if_pos hp, Machine.cycle, if_pos hp']
      exact h
    | false =>
      obtain ⟨i, hi⟩ := exists_executes hp hr
      rw [state_of_executes hi, state_of_executes (h.executes_iff.2 hi)]
      exact (h.stepPast.execute (hX i hi) random).counted

end Machine

end Chip8
