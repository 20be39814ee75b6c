import Chip8.Proofs.Machine.Bounded
import Chip8.Proofs.Machine.Drawing
import Chip8.Proofs.Machine.Transfer

/-!
# Drawing a digit

The glyphs of the digits are in memory from power-on, below the place of programs.  They stay there
as long as nothing writes to them: loading a program does not reach them, and starting over leaves
memory.  One instruction points the index at the glyph of a digit, and as a glyph lies in memory
whatever the digit, a drawing that follows cannot fail.

## What is here

* `Memory.glyph`, `Memory.HasGlyphs` — the rows of the glyphs, and that they are in their place.
* `Screen.rowsBit` — the bit over a pixel, for a sprite that is given by its rows.
* `Console.SparesGlyphs` — an operation that does not write to the glyphs;
  `Console.ReachedSparing`, a console that only such operations lead to, and
  `ReachedSparing.hasGlyphs`, that it has the glyphs.
* `Word.draw`, `Machine.leadsTo_glyph`, `Machine.leadsTo_draw` — what the two words do;
  `Console.cycles_of_leadsTo`, two cycles with words of which that is known.
* `Console.glyph_drawn` — the two in a row draw the digit.
-/

set_option autoImplicit false

namespace Chip8

open Screen

/-! ## Glyphs -/

/-- A sprite with these rows, with its upper left corner at column `x` and row `y` of the screen,
has a set bit over the pixel at column `p` and row `q`. -/
def Screen.rowsBit (rows : List UInt8) (x y p q : Nat) : Bool :=
  let dx := (p + (width - x)) % width
  let dy := (q + (height - y)) % height
  decide (dx < 8) && rows[dy]?.any fun row => row.toNat.testBit (7 - dx)

namespace Memory

variable {m : Memory}

/-- The rows of the glyph of a digit. -/
def glyph (d : Nat) : List UInt8 := (font.drop (5 * d)).take 5

/-- The glyphs are in their place. -/
def HasGlyphs (m : Memory) : Prop := m.block 0x050 80 = font

theorem spriteBit_eq_rowsBit (m : Memory) (a n x y p q : Nat) :
    m.spriteBit a n x y p q = rowsBit (m.block a n) x y p q := by
  rw [spriteBit, rowsBit, getElem?_block, Bool.and_assoc]
  by_cases hn : (q + (height - y)) % height < n
  · rw [if_pos hn, Option.any_some, decide_eq_true hn, Bool.true_and]
  · rw [if_neg hn, Option.any_none, decide_eq_false hn, Bool.false_and]

theorem HasGlyphs.block_eq_glyph (h : m.HasGlyphs) {d : Nat} (hd : d < 16) :
    m.block (0x050 + 5 * d) 5 = glyph d := by
  rw [glyph, ← h, take_drop_block (by omega)]

example : glyph 0xb = [0xe0, 0x90, 0xe0, 0x90, 0xe0] := rfl

theorem hasGlyphs_loadFont (hm : m.size = capacity) : m.loadFont.HasGlyphs := by
  have hroom : 0x050 + font.length ≤ m.bytes.size := by
    rw [show m.bytes.size = capacity from hm]
    decide
  exact block_blit hroom

theorem hasGlyphs_initial : initial.HasGlyphs := by
  rw [initial_eq]
  exact hasGlyphs_loadFont Array.size_replicate

theorem HasGlyphs.of_agreeOutside {n : Memory} (h : m.HasGlyphs)
    (hsame : m.AgreeOutside (fun k => ¬ (0x050 ≤ k ∧ k < 0x0a0)) n) : n.HasGlyphs :=
  (hsame.block fun _ hlo hhi hout => hout ⟨hlo, hhi⟩).trans h

end Memory

/-! ## Glyphs that stay -/

namespace Console

variable {c : Console} {op : Operation}

/-- The operation does not write to the place of the glyphs, unless to put them there. -/
def SparesGlyphs (c : Console) (op : Operation) : Prop :=
  op = .edit .loadFont ∨ ∀ k < 0x0a0, 0x050 ≤ k → ¬ c.WritesByte k op

instance : Decidable (c.SparesGlyphs op) := inferInstanceAs (Decidable (_ ∨ _))

/-- **The glyphs stay in their place** when an operation spares them. -/
theorem hasGlyphs_perform (hop : c.SparesGlyphs op)
    (hsize : c.machine.memory.size = Memory.capacity) (h : c.machine.memory.HasGlyphs) :
    (c.perform op).state.machine.memory.size = Memory.capacity ∧
      (c.perform op).state.machine.memory.HasGlyphs := by
  rcases hop with rfl | hspares
  · exact ⟨(Memory.size_loadFont _).trans hsize, Memory.hasGlyphs_loadFont hsize⟩
  · have hsame := agreeOutside_perform (D := fun k => ¬ (0x050 ≤ k ∧ k < 0x0a0)) hsize
      fun k hk hin => hspares k hin.2 hin.1 hk
    exact ⟨hsame.size.trans hsize, h.of_agreeOutside hsame⟩

/-- Some operations that spare the glyphs lead from power-on to this console. -/
def ReachedSparing (c : Console) : Prop :=
  ∃ d e ops, (powerOn d e).Throughout SparesGlyphs ops ∧ c = (powerOn d e).performAll ops

/-- **The glyphs stay in their place** from power-on, however many operations are
performed that spare them. -/
theorem ReachedSparing.hasGlyphs (h : c.ReachedSparing) :
    c.machine.memory.size = Memory.capacity ∧ c.machine.memory.HasGlyphs := by
  obtain ⟨d, e, ops, hops, rfl⟩ := h
  exact performAll_induction_of hops
    (motive := fun c => c.machine.memory.size = Memory.capacity ∧ c.machine.memory.HasGlyphs)
    ⟨Memory.size_initial, Memory.hasGlyphs_initial⟩ fun _ _ hop h => hasGlyphs_perform hop h.1 h.2

theorem ReachedSparing.reached (h : c.ReachedSparing) : c.Reached := by
  obtain ⟨d, e, ops, -, hc⟩ := h
  exact ⟨d, e, ops, hc⟩

end Console

/-! ## The two words -/

/-- The word `Dxyn`. -/
def Word.draw (x y n : Fin 16) : UInt16 := .ofNat (0xd000 + 0x100 * x + 0x10 * y + n)

/-- What the word of a drawing stands for. -/
theorem Instruction.decode?_draw (x y n : Fin 16) :
    decode? (Word.draw x y n) = some (.draw (.ofNat x) (.ofNat y) (.ofNat n)) := by
  have hn : (UInt8.ofNat n).toNat = n := UInt8.toNat_ofNat_of_lt' (Nat.lt_trans n.isLt (by decide))
  have hfits : (draw (.ofNat x) (.ofNat y) (.ofNat n)).Fits := by
    refine ⟨?_, ?_, ?_⟩
    · rw [toNat_register]
      exact x.isLt
    · rw [toNat_register]
      exact y.isLt
    · rw [hn]
      exact n.isLt
  have hword : (draw (.ofNat x) (.ofNat y) (.ofNat n)).encode = Word.draw x y n := by
    simp only [encode, wordOfDigit, toNat_register, hn, Word.draw]
  rw [← hword]
  exact decode?_encode hfits

namespace Machine

variable {m : Machine}

/-- `Fx29` points the index at a glyph. -/
theorem leadsTo_glyph (m : Machine) (x : Fin 16) :
    Word.LeadsTo (Word.misc 0x29 x) m
      { m with index := .ofNat (0x050 + 5 * ((m.reg x).toNat % 16)) } := by
  refine leadsTo_misc .glyph rfl rfl fun a => ?_
  show Outcome.done (({ m with pc := a } : Machine).pointAtGlyph (UInt64.ofNat x).toNat) = _
  rw [Instruction.toNat_register]
  rfl

/-- `Dxyn` draws a sprite that lies in memory. -/
theorem leadsTo_draw (hs : m.screen.pixels.size = width * height) {n : Fin 16}
    (hi : m.index.toNat + n ≤ m.memory.size) (x y : Fin 16) :
    ∃ screen hit, Word.LeadsTo (Word.draw x y n) m ({ m with screen }.setFlag hit) ∧
      m.screen.Drawn m.memory m.index.toNat n ((m.reg x).toNat % width) ((m.reg y).toNat % height)
        screen hit := by
  have hn : (UInt8.ofNat n).toNat = n := UInt8.toNat_ofNat_of_lt' (Nat.lt_trans n.isLt (by decide))
  have hheight : n.val ≤ height := Nat.le_trans (Nat.le_of_lt n.isLt) (by decide)
  refine ⟨_, _, leadsTo_of_execute (Instruction.decode?_draw x y n) rfl rfl fun random a => ?_,
    drawn_plot hs (Nat.mod_lt _ (by decide)) (Nat.mod_lt _ (by decide)) hheight⟩
  show ({ m with pc := a } : Machine).draw (UInt64.ofNat x).toNat (UInt64.ofNat y).toNat
    (UInt8.ofNat n).toNat = _
  rw [Instruction.toNat_register, Instruction.toNat_register, hn]
  exact draw_of_le (m := { m with pc := a }) hi

end Machine

namespace Console

/-- A cycle with a word that leads to `n`. -/
theorem cycle_of_leadsTo {c : Console} {w : UInt16} {n : Machine}
    (h : Word.LeadsTo w c.machine n) (hp : c.machine.flags.isPaused = false)
    (hfetch : c.machine.fetch = .ok w) :
    c.cycle.result = .ok () ∧ c.cycle.state.machine =
      { n with pc := c.machine.pc + 2, cycles := c.machine.cycles + 1 } := by
  obtain ⟨i, hw, hleads⟩ := h
  have hcycle := (hleads c.entropy.next).2 hp hfetch
  exact ⟨congrArg Outcome.result hcycle, congrArg Outcome.state hcycle⟩

/-- Two cycles with words that lead on, one after the other. -/
theorem cycles_of_leadsTo {c : Console} {w w' : UInt16} {n n' : Machine}
    (h : Word.LeadsTo w c.machine n)
    (h' : Word.LeadsTo w' { n with pc := c.machine.pc + 2, cycles := c.machine.cycles + 1 } n')
    (hp : c.machine.flags.isPaused = false) (hfetch : c.machine.fetch = .ok w)
    (hp' : n.flags.isPaused = false)
    (hfetch' : ({ n with pc := c.machine.pc + 2 } : Machine).fetch = .ok w') :
    c.cycle.result = .ok () ∧ c.cycle.state.cycle.result = .ok () ∧
      c.cycle.state.cycle.state.machine =
        { n' with pc := c.machine.pc + 4, cycles := c.machine.cycles + 2 } := by
  obtain ⟨hok, hstate⟩ := cycle_of_leadsTo h hp hfetch
  obtain ⟨hok', hstate'⟩ := cycle_of_leadsTo (c := c.cycle.state)
    (by rw [hstate]; exact h') (by rw [hstate]; exact hp') (by rw [hstate]; exact hfetch')
  have hpc : c.machine.pc + 2 + 2 = c.machine.pc + 4 := UInt16.add_assoc _ _ _
  have hcycles : c.machine.cycles + 1 + 1 = c.machine.cycles + 2 := UInt64.add_assoc _ _ _
  refine ⟨hok, hok', ?_⟩
  rw [hstate', hstate, ← hpc, ← hcycles]

/-- **A digit is drawn.**  Let any operations have been performed since power-on that spare the
glyphs, and let `Fx29` and then `Dab5` be the next two words of a machine that is not paused.  Its
next two cycles succeed, whatever is in the registers.  They change the pixels under the set bits of
the glyph of the digit that register `x` names, with its corner where the registers `a` and `b` say,
counted around the screen, and the flag register is 1 if one of these pixels was on and 0 otherwise.
Beyond this, the index points at the glyph, and nothing has changed but what any two cycles
change. -/
theorem glyph_drawn {c : Console} (hc : c.ReachedSparing) (x a b : Fin 16) :
    let m := c.machine
    let digit := (m.reg x).toNat % 16
    let column := (m.reg a).toNat % 64
    let row := (m.reg b).toNat % 32
    m.flags.isPaused = false → m.fetch = .ok (Word.misc 0x29 x) →
      ({ m with pc := m.pc + 2 } : Machine).fetch = .ok (Word.draw a b 5) →
      c.cycle.result = .ok () ∧ c.cycle.state.cycle.result = .ok () ∧
      ∃ screen hit,
        c.cycle.state.cycle.state.machine =
          { m with
            screen, pc := m.pc + 4, index := .ofNat (0x050 + 5 * digit),
            cycles := m.cycles + 2 }.setFlag hit ∧
        screen.pixels.size = 64 * 32 ∧
        (∀ p < 64, ∀ q < 32, screen.get p q =
          (m.screen.get p q ^^ rowsBit (Memory.glyph digit) column row p q)) ∧
        (hit = true ↔ ∃ p < 64, ∃ q < 32,
          rowsBit (Memory.glyph digit) column row p q = true ∧ m.screen.get p q = true) ∧
        c.cycle.state.cycle.state.machine.reg 0xf = if hit then 1 else 0 := by
  intro m digit column row hp hglyph hdraw
  obtain ⟨hsize, hhas⟩ := hc.hasGlyphs
  have hs : m.screen.pixels.size = width * height := hc.reached.bounded.screen_size
  have hdigit : digit < 16 := Nat.mod_lt _ (by decide)
  let m₁ : Machine :=
    { m with index := .ofNat (0x050 + 5 * digit), pc := m.pc + 2, cycles := m.cycles + 1 }
  have hindex : m₁.index.toNat = 0x050 + 5 * digit :=
    UInt16.toNat_ofNat_of_lt' (show 0x050 + 5 * digit < 0x10000 by omega)
  have hfits : m₁.index.toNat + 5 ≤ m₁.memory.size := by
    show _ ≤ m.memory.size
    rw [hindex, hsize, show Memory.capacity = 0x1000 from rfl]
    omega
  obtain ⟨screen, hit, hleads, hdrawn⟩ := Machine.leadsTo_draw (m := m₁) hs (n := 5) hfits a b
  -- the bit of the sprite that the index points at now is the bit of the glyph
  have hbit : ∀ p q, m₁.memory.spriteBit m₁.index.toNat 5 column row p q =
      rowsBit (Memory.glyph digit) column row p q := fun p q => by
    rw [Memory.spriteBit_eq_rowsBit, hindex, hhas.block_eq_glyph hdigit]
  obtain ⟨hok, hok', hdone⟩ :=
    cycles_of_leadsTo (Machine.leadsTo_glyph m x) hleads hp hglyph hp hdraw
  have hstate : c.cycle.state.cycle.state.machine =
      { m with
        screen, pc := m.pc + 4, index := .ofNat (0x050 + 5 * digit),
        cycles := m.cycles + 2 }.setFlag hit := hdone
  refine ⟨hok, hok', screen, hit, hstate, hdrawn.size, fun p hp q hq => ?_, hdrawn.hit.trans ?_,
    (Machine.reg_of_eq_setFlag hstate).1⟩
  · rw [hdrawn.get p hp q hq, ← hbit]
    rfl
  · simp only [← hbit]
    rfl

set_option maxRecDepth 100000 in
/-- The bytes on both sides of the glyphs are overwritten, and a program is loaded and run that
draws the digit 0 over the lower right corner of the screen, and then, over it, the digit that is
the last one of the coordinate `3e`. -/
theorem glyph_drawn_over_corner :
    let program : List UInt8 :=
      [0x60, 0x3e, 0xa0, 0x50, 0xd0, 0x05, 0xf0, 0x29, 0xd0, 0x05]
    let ops : List Operation :=
      [.edit (.write 0x04f 0xff), .edit (.write 0x0a0 0xff), .load program, .run 3]
    let start := powerOn (.uniform false) ⟨fun _ => 0, 0⟩
    let c := start.performAll ops
    c.ReachedSparing ∧ c.machine.flags.isPaused = false ∧
      c.machine.fetch = .ok (Word.misc 0x29 0) ∧
      ({ c.machine with pc := c.machine.pc + 2 } : Machine).fetch = .ok (Word.draw 0 0 5) ∧
      c.cycle.state.cycle.result = .ok () ∧
      let drawn := c.cycle.state.cycle.state.machine
      drawn.index = 0x096 ∧ drawn.screen.get 62 30 = false ∧ drawn.screen.get 1 31 = true ∧
        drawn.screen.get 63 0 = true ∧ drawn.reg 0xf = 1 := by
  intro program ops start c
  have hops : start.Throughout SparesGlyphs ops := by decide +kernel
  have hreached : c.ReachedSparing := ⟨_, _, ops, hops, rfl⟩
  have h : c.machine.flags.isPaused = false ∧ c.machine.memory.size = 0x1000 ∧
      c.machine.pc = 0x206 ∧ c.machine.word = Word.misc 0x29 0 ∧
      c.machine.stepPast.word = Word.draw 0 0 5 ∧ c.machine.reg 0 = 0x3e ∧
      c.machine.screen.get 62 30 = true ∧ c.machine.screen.get 1 31 = true ∧
      c.machine.screen.get 63 0 = false := by
    decide +kernel
  clear_value c
  obtain ⟨hp, hsize, hpc, hglyph, hdraw, h0, hcorner, hkept, hnew⟩ := h
  have hfetch : c.machine.fetch = .ok (Word.misc 0x29 0) := by
    rw [← hglyph]
    exact Machine.fetch_of_lt (by rw [hpc, hsize]; decide)
  have hfetch' : c.machine.stepPast.fetch = .ok (Word.draw 0 0 5) := by
    rw [← hdraw]
    refine Machine.fetch_of_lt ?_
    show (c.machine.pc + 2).toNat + 1 < c.machine.memory.size
    rw [hpc, hsize]
    decide
  obtain ⟨-, hok, screen, hit, hstate, -, hget, hiff, hflag⟩ :=
    glyph_drawn hreached 0 0 0 hp hfetch hfetch'
  refine ⟨hreached, hp, hfetch, hfetch', hok, ?_⟩
  simp only [Fin.val_zero, h0] at hstate hget hiff
  have hhit : hit = true :=
    hiff.2 ⟨62, by decide, 30, by decide, by decide +kernel, hcorner⟩
  rw [hhit] at hflag
  refine ⟨by rw [hstate]; rfl, ?_, ?_, ?_, hflag⟩
  · rw [hstate]
    show screen.get 62 30 = false
    rw [hget 62 (by decide) 30 (by decide), hcorner]
    decide +kernel
  · rw [hstate]
    show screen.get 1 31 = true
    rw [hget 1 (by decide) 31 (by decide), hkept]
    decide +kernel
  · rw [hstate]
    show screen.get 63 0 = true
    rw [hget 63 (by decide) 0 (by decide), hnew]
    decide +kernel

end Console

end Chip8
