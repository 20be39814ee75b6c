import Mathlib.Data.List.Nodup
import Chip8.Proofs.Machine.Drawing
import Chip8.Proofs.Machine.Frame
import Chip8.Proofs.Screen.Lit

/-!
# Drawing and the number of lit pixels

Drawing a sprite on a dark part of the screen lights as many pixels as the sprite has set
bits.  Every pixel that was lit under a set bit goes off instead, so it is missing twice.  The
flag register is 0 iff there is no such pixel, and so the number of lit pixels alone tells
what the flag register holds.

## What is here

* `Screen.grid`, `Screen.litUnder` — the pixels by column and row, and how many of them are lit
  under a set bit of a sprite.
* `Screen.turnedOff_spriteDots` — so many toggles of the sprite turn a pixel off.
* `Machine.state_of_executes_draw` — what a cycle does that draws.
* `Machine.lit_accounted` — the number of lit pixels, over any toggles and over a drawing.
-/

set_option autoImplicit false

namespace Chip8

namespace Screen

variable {s : Screen} {m : Memory} {a n x y : Nat}

/-! ## Pixels under a sprite -/

/-- The pixels by column and row. -/
def grid : List (Nat × Nat) := (List.range width).product (List.range height)

/-- The number of pixels that are lit and lie under a set bit of a sprite.  It has `n` rows, which
are in memory from `a` on, and its corner is at column `x` and row `y`. -/
def litUnder (s : Screen) (m : Memory) (a n x y : Nat) : Nat :=
  grid.countP fun c => m.spriteBit a n x y c.1 c.2 && s.get c.1 c.2

theorem mem_grid {c : Nat × Nat} : c ∈ grid ↔ c.1 < width ∧ c.2 < height := by
  rw [grid, List.pair_mem_product, List.mem_range, List.mem_range]

/-- The grid lists every place once. -/
theorem nodup_places_grid : (grid.map fun c => index c.1 c.2).Nodup := by
  refine List.Nodup.map_on (fun b hb c hc hplace => ?_) (List.nodup_range.product List.nodup_range)
  obtain ⟨hcolumn, hrow⟩ := index_eq_iff.1 hplace
  have hb := mem_grid.1 hb
  have hc := mem_grid.1 hc
  rw [Nat.mod_eq_of_lt hb.1, Nat.mod_eq_of_lt hc.1] at hcolumn
  rw [Nat.mod_eq_of_lt hb.2, Nat.mod_eq_of_lt hc.2] at hrow
  exact Prod.ext hcolumn hrow

/-- **The toggles of a sprite turn off the pixels that are lit under a set bit**: both are places of
the screen, named once each. -/
theorem turnedOff_spriteDots (hs : s.pixels.size = width * height) (hx : x < width)
    (hy : y < height) (hn : n ≤ height) :
    s.turnedOff (spriteDots x y (m.block a n)) = s.litUnder m a n x y := by
  have hdistinct : Distinct (spriteDots x y (m.block a n)) := distinct_spriteDots_block hn
  let off : List Dot := (spriteDots x y (m.block a n)).filter fun d => d.on && s.get d.x d.y
  let under : List (Nat × Nat) := grid.filter fun c => m.spriteBit a n x y c.1 c.2 && s.get c.1 c.2
  have hoff : (off.map Dot.place).Nodup := List.pairwise_map.2 (hdistinct.filter _)
  have hunder : (under.map fun c => index c.1 c.2).Nodup :=
    nodup_places_grid.sublist (List.filter_sublist.map _)
  have hsame : ∀ k, k ∈ off.map Dot.place ↔ k ∈ under.map fun c => index c.1 c.2 := by
    intro k
    simp only [List.mem_map, off, under, List.mem_filter, mem_grid, Bool.and_eq_true]
    constructor
    · rintro ⟨d, ⟨hd, hon, hlit⟩, rfl⟩
      obtain ⟨p, hp, q, hq, hplace⟩ := exists_place_eq d
      rw [get_of_place hplace] at hlit
      have hbit := (exists_spriteDots_iff hx hy hn hp hq).1 ⟨d, hd, hon, hplace⟩
      exact ⟨(p, q), ⟨⟨hp, hq⟩, hbit, hlit⟩, hplace.symm⟩
    · rintro ⟨⟨p, q⟩, ⟨⟨hp, hq⟩, hbit, hlit⟩, rfl⟩
      obtain ⟨d, hd, hon, hplace⟩ := (exists_spriteDots_iff hx hy hn hp hq).2 hbit
      exact ⟨d, ⟨hd, hon, (get_of_place hplace).trans hlit⟩, hplace⟩
  have hlength := ((List.perm_ext_iff_of_nodup hoff hunder).2 hsame).length_eq
  rw [List.length_map, List.length_map] at hlength
  rw [turnedOff_of_distinct hs hdistinct, litUnder, List.countP_eq_length_filter,
    List.countP_eq_length_filter]
  exact hlength

/-- **What a sprite does to the number of lit pixels**, and when it meets none. -/
theorem lit_plot_spriteDots (hs : s.pixels.size = width * height) (hx : x < width) (hy : y < height)
    (hn : n ≤ height) :
    let drawn := s.plot (spriteDots x y (m.block a n))
    drawn.1.lit + 2 * s.litUnder m a n x y = s.lit + setBits (m.block a n) ∧
      (drawn.2 = false ↔ s.litUnder m a n x y = 0) := by
  rw [← turnedOff_spriteDots hs hx hy hn, ← countP_on_spriteDots x y]
  exact ⟨lit_plot_of_on hs _, snd_plot_eq_false_iff⟩

end Screen

open Screen

namespace Machine

variable {m : Machine} {x y : UInt64} {n : UInt8}

/-! ## The instruction -/

/-- The flag register is 0 iff it was set to no. -/
theorem reg_setFlag_eq_zero_iff (m : Machine) (on : Bool) :
    (m.setFlag on).reg 0xf = 0 ↔ on = false := by
  rw [reg_setFlag, if_pos rfl]
  cases on <;> decide

/-- What a cycle does that draws. -/
theorem state_of_executes_draw (h : m.Executes (.draw x y n)) (random : UInt8) :
    let drawn := m.screen.plot (spriteDots ((m.reg x.toNat).toNat % width)
      ((m.reg y.toNat).toNat % height) (m.memory.block m.index.toNat n.toNat))
    (m.cycle random).state =
      { m with screen := drawn.1, pc := m.pc + 2, cycles := m.cycles + 1 }.setFlag drawn.2 := by
  obtain ⟨-, -, -, hf⟩ := executes_iff.1 h
  rw [state_of_executes h, execute, draw_of_le (m := m.stepPast) (blockFault_eq_none.1 hf)]
  rfl

/-- A sprite has no more rows than the screen. -/
theorem rows_le_of_executes_draw (h : m.Executes (.draw x y n)) : n.toNat ≤ height := by
  obtain ⟨-, -, hw, -⟩ := executes_iff.1 h
  obtain ⟨-, -, hn⟩ := Instruction.fits_of_decode? hw
  exact Nat.le_trans (Nat.le_of_lt hn) (by decide)

/-- **Lit pixels are accounted for.**  Let any toggles be made on a screen, at any columns and
rows, which are counted around it.  Afterwards as many pixels more are lit as toggles that were
not to leave their pixel have answered no, and as many less as toggles have answered yes.  A
toggle that is to leave its pixel answers no and changes nothing.  So whenever a cycle draws a
sprite, the number of lit pixels grows by the number of set bits in its rows, less twice the
number of pixels that were lit under a set bit; and the flag register is 0 afterwards iff it has
grown by just the number of set bits. -/
theorem lit_accounted :
    (∀ (s : Screen) (ds : List Dot), s.pixels.size = 2048 →
      ((s.plot ds).1.lit : Int) =
        s.lit + (ds.zip (s.answers ds)).countP (fun a => a.1.on && !a.2) -
          (s.answers ds).count true) ∧
    (∀ (s : Screen) (d : Dot), d.on = false → s.toggle d = (s, false)) ∧
    ∀ (m : Machine) (x y : UInt64) (n random : UInt8),
      m.screen.pixels.size = 2048 → m.Executes (.draw x y n) →
      let bits := setBits (m.memory.block m.index.toNat n.toNat)
      let under := m.screen.litUnder m.memory m.index.toNat n.toNat ((m.reg x.toNat).toNat % 64)
        ((m.reg y.toNat).toNat % 32)
      let drawn := (m.cycle random).state
      (drawn.screen.lit : Int) = m.screen.lit + bits - 2 * under ∧
        (drawn.reg 0xf = 0 ↔ drawn.screen.lit = m.screen.lit + bits) := by
  refine ⟨fun s ds hs => ?_, fun s d hd => toggle_of_off hd s, ?_⟩
  · have hlit : (s.plot ds).1.lit + (s.answers ds).count true =
        s.lit + (ds.zip (s.answers ds)).countP (fun a => a.1.on && !a.2) := lit_plot hs ds
    omega
  · intro m x y n random hs hexec bits under drawn
    obtain ⟨hlit, hflag⟩ := lit_plot_spriteDots (m := m.memory) (a := m.index.toNat) hs
      (Nat.mod_lt (m.reg x.toNat).toNat (by decide)) (Nat.mod_lt (m.reg y.toNat).toNat (by decide))
      (rows_le_of_executes_draw hexec)
    have hstate := state_of_executes_draw hexec random
    have hscreen : drawn.screen.lit + 2 * under = m.screen.lit + bits := by
      rw [show drawn = _ from hstate]
      exact hlit
    have hreg : drawn.reg 0xf = 0 ↔ under = 0 := by
      rw [show drawn = _ from hstate, reg_setFlag_eq_zero_iff]
      exact hflag
    refine ⟨by omega, hreg.trans ?_⟩
    omega

set_option maxRecDepth 100000 in
/-- Three toggles fall on one pixel of the first row, the second of which takes the first one back,
and one falls on another pixel.  Then the glyph of the digit 0 is drawn over the lower right corner
of the screen and comes in again at the top left.  It has 14 set bits, and one of them lies over one
of the two lit pixels. -/
theorem lit_accounted_around_corner :
    let dots : List Dot :=
      [⟨1, 0, true⟩, ⟨65, 32, true⟩, ⟨1, 64, true⟩, ⟨9, 0, false⟩, ⟨5, 0, true⟩]
    let s := (Screen.dark.plot dots).1
    let program : Memory := ⟨Memory.blit Memory.initial.bytes 0x200 [0xd0, 0x15]⟩
    let m := (({ memory := program, screen := s, index := 0x50 } : Machine).setReg 0 62).setReg 1 30
    s.pixels.size = 2048 ∧ m.Executes (.draw 0 1 5) ∧ s.lit = 2 ∧
      (m.cycle 0).state.screen.lit = 14 ∧ (m.cycle 0).state.reg 0xf ≠ 0 := by
  intro dots s program m
  obtain ⟨htoggles, -, hdraw⟩ := lit_accounted
  have hdark : Screen.dark.pixels.size = 2048 := Array.size_replicate
  have hs : s.pixels.size = 2048 := (size_plot _ _).trans hdark
  have hcounts : (dots.zip (Screen.dark.answers dots)).countP (fun a => a.1.on && !a.2) = 3 ∧
      (Screen.dark.answers dots).count true = 1 := by
    decide +kernel
  have hlit : s.lit = 2 := by
    have hplot := htoggles Screen.dark dots hdark
    rw [lit_dark, hcounts.1, hcounts.2] at hplot
    exact Int.ofNat_inj.1 hplot
  have hexec : m.Executes (.draw 0 1 5) := by decide +kernel
  have hbits : setBits (m.memory.block m.index.toNat 5) = 14 := by decide +kernel
  have hunder : m.screen.litUnder m.memory m.index.toNat 5 ((m.reg 0).toNat % 64)
      ((m.reg 1).toNat % 32) = 1 := by
    decide +kernel
  obtain ⟨hdrawn, hflag⟩ : ((m.cycle 0).state.screen.lit : Int) =
      s.lit + setBits (m.memory.block m.index.toNat 5) -
        2 * m.screen.litUnder m.memory m.index.toNat 5 ((m.reg 0).toNat % 64)
          ((m.reg 1).toNat % 32) ∧
      ((m.cycle 0).state.reg 0xf = 0 ↔ (m.cycle 0).state.screen.lit =
        s.lit + setBits (m.memory.block m.index.toNat 5)) := hdraw m 0 1 5 0 hs hexec
  rw [hlit, hbits, hunder] at hdrawn
  rw [hlit, hbits] at hflag
  have hleft : (m.cycle 0).state.screen.lit = 14 := Int.ofNat_inj.1 hdrawn
  refine ⟨hs, hexec, hlit, hleft, fun hzero => ?_⟩
  rw [hflag, hleft] at hzero
  exact absurd hzero (by decide)

end Machine

end Chip8
