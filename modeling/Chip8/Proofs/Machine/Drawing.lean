import Chip8.Proofs.Machine.Transition
import Chip8.Proofs.Screen.Plot

/-!
# Drawing a sprite

The bytes of a sprite are its rows, the highest bit on the left.  Drawing one changes the pixels
that lie under a set bit, counted around both edges of the screen from the corner of the sprite.

## What is here

* `Memory.spriteBit` — the bit of a sprite over a pixel, by the distance of the pixel from the
  corner.
* `flips_spriteDots`, `snd_plot_spriteDots` — what the toggles of a sprite do, told by that bit.
* `Screen.Drawn` — a screen after a sprite was drawn on it; `Screen.drawn_plot` and
  `Machine.exists_draw`, that drawing leaves such a screen.
* `Machine.draw_exact` — what drawing does to the screen, the flag register and everything else.
-/

set_option autoImplicit false

namespace Chip8

open Screen

/-! ## The bit over a pixel -/

/-- A sprite of `n` rows that are in memory from `a` on, with its upper left corner at column `x`
and row `y` of the screen, has a set bit over the pixel at column `p` and row `q`. -/
def Memory.spriteBit (m : Memory) (a n x y p q : Nat) : Bool :=
  let dx := (p + (width - x)) % width
  let dy := (q + (height - y)) % height
  decide (dx < 8) && decide (dy < n) && (m.byteAt (a + dy)).toNat.testBit (7 - dx)

section Sprite

variable {m : Memory} {a n x y p q : Nat}

theorem Memory.spriteBit_iff :
    m.spriteBit a n x y p q = true ↔
      (p + (width - x)) % width < 8 ∧ (q + (height - y)) % height < n ∧
        (m.byteAt (a + (q + (height - y)) % height)).toNat.testBit
          (7 - (p + (width - x)) % width) = true := by
  rw [spriteBit, Bool.and_eq_true, Bool.and_eq_true, decide_eq_true_eq, decide_eq_true_eq,
    and_assoc]

/-- A column `c` steps to the right of `x` is the column at distance `c`, around the screen. -/
theorem distance_eq {w c : Nat} (hx : x < w) (hp : p < w) (hc : c < w) :
    (p + (w - x)) % w = c ↔ (x + c) % w = p % w := by
  rw [Nat.mod_eq_of_lt hp]
  rcases Nat.lt_or_ge p x with h | h
  · rw [Nat.mod_eq_of_lt (show p + (w - x) < w by omega)]
    rcases Nat.lt_or_ge (x + c) w with hxc | hxc
    · rw [Nat.mod_eq_of_lt hxc]
      omega
    · rw [Nat.mod_eq_sub_mod hxc, Nat.mod_eq_of_lt (by omega)]
      omega
  · rw [show p + (w - x) = p - x + w by omega, Nat.add_mod_right,
      Nat.mod_eq_of_lt (show p - x < w by omega)]
    rcases Nat.lt_or_ge (x + c) w with hxc | hxc
    · rw [Nat.mod_eq_of_lt hxc]
      omega
    · rw [Nat.mod_eq_sub_mod hxc, Nat.mod_eq_of_lt (by omega)]
      omega

/-- A toggle of a sprite at some pixel is a bit of the sprite that lies over it. -/
theorem exists_spriteDots_iff (hx : x < width) (hy : y < height) (hn : n ≤ height)
    (hp : p < width) (hq : q < height) :
    (∃ d ∈ spriteDots x y (m.block a n), d.on = true ∧ d.place = index p q) ↔
      m.spriteBit a n x y p q = true := by
  rw [Memory.spriteBit_iff]
  constructor
  · rintro ⟨d, hd, hon, hplace⟩
    obtain ⟨r, c, hr, hc, rfl⟩ := mem_spriteDots.1 hd
    obtain ⟨hcol, hrow⟩ := index_eq_iff.1 hplace
    rw [Memory.getElem_block] at hon
    rw [Memory.length_block] at hr
    rw [(distance_eq hx hp (Nat.lt_trans hc (by decide))).2 hcol,
      (distance_eq hy hq (Nat.lt_of_lt_of_le hr hn)).2 hrow]
    exact ⟨hc, hr, hon⟩
  · rintro ⟨hdx, hdy, hbit⟩
    have hcol := (distance_eq hx hp (Nat.lt_trans hdx (by decide))).1 rfl
    have hrow := (distance_eq hy hq (Nat.lt_of_lt_of_le hdy hn)).1 rfl
    have hr : (q + (height - y)) % height < (m.block a n).length := by
      rw [Memory.length_block]
      exact hdy
    refine ⟨_, mem_spriteDots.2 ⟨_, _, hr, hdx, rfl⟩, ?_, index_eq_iff.2 ⟨hcol, hrow⟩⟩
    rw [Memory.getElem_block]
    exact hbit

theorem distinct_spriteDots_block (hn : n ≤ height) :
    Distinct (spriteDots x y (m.block a n)) :=
  distinct_spriteDots x y (by rw [Memory.length_block]; exact hn)

/-- The toggles of a sprite change the pixels under its set bits. -/
theorem flips_spriteDots (hx : x < width) (hy : y < height) (hn : n ≤ height)
    (hp : p < width) (hq : q < height) :
    flips (spriteDots x y (m.block a n)) (index p q) = m.spriteBit a n x y p q := by
  rw [flips_of_distinct (distinct_spriteDots_block hn), Bool.eq_iff_iff,
    ← exists_spriteDots_iff hx hy hn hp hq, List.any_eq_true]
  simp only [Bool.and_eq_true, beq_iff_eq]

/-- They turn a pixel off iff one of those was on. -/
theorem snd_plot_spriteDots {s : Screen} (hs : s.pixels.size = width * height) (hx : x < width)
    (hy : y < height) (hn : n ≤ height) :
    (s.plot (spriteDots x y (m.block a n))).2 = true ↔
      ∃ p < width, ∃ q < height, m.spriteBit a n x y p q = true ∧ s.get p q = true := by
  rw [snd_plot_of_distinct hs (distinct_spriteDots_block hn), List.any_eq_true]
  constructor
  · rintro ⟨d, hd, hlit⟩
    rw [Bool.and_eq_true] at hlit
    obtain ⟨p, hp, q, hq, hplace⟩ := exists_place_eq d
    rw [get_of_place hplace] at hlit
    exact ⟨p, hp, q, hq, (exists_spriteDots_iff hx hy hn hp hq).1 ⟨d, hd, hlit.1, hplace⟩, hlit.2⟩
  · rintro ⟨p, hp, q, hq, hbit, hlit⟩
    obtain ⟨d, hd, hon, hplace⟩ := (exists_spriteDots_iff hx hy hn hp hq).2 hbit
    refine ⟨d, hd, ?_⟩
    rw [Bool.and_eq_true, get_of_place hplace]
    exact ⟨hon, hlit⟩

end Sprite

/-! ## The instruction -/

/-- The screen `t` is what drawing a sprite on `s` leaves, and `hit` tells whether that turned a
pixel off.  The sprite has `n` rows, which are in memory from `a` on, and its corner is at
column `x` and row `y`. -/
structure Screen.Drawn (s : Screen) (m : Memory) (a n x y : Nat) (t : Screen) (hit : Bool) :
    Prop where
  /-- The number of pixels. -/
  size : t.pixels.size = width * height
  /-- The pixels under a set bit have changed, and no others. -/
  get : ∀ p < width, ∀ q < height, t.get p q = (s.get p q ^^ m.spriteBit a n x y p q)
  /-- A pixel that was on has changed. -/
  hit : hit = true ↔
    ∃ p < width, ∃ q < height, m.spriteBit a n x y p q = true ∧ s.get p q = true

theorem Screen.drawn_plot {s : Screen} {m : Memory} {a n x y : Nat}
    (hs : s.pixels.size = width * height) (hx : x < width) (hy : y < height) (hn : n ≤ height) :
    let drawn := s.plot (spriteDots x y (m.block a n))
    s.Drawn m a n x y drawn.1 drawn.2 where
  size := by rw [size_plot, hs]
  get p hp q hq := by rw [get_plot hs, flips_spriteDots hx hy hn hp hq]
  hit := snd_plot_spriteDots hs hx hy hn

namespace Machine

/-- A sprite that lies in memory is drawn without a fault, and nothing but the screen and the flag
register changes. -/
theorem exists_draw {m : Machine} (x y : Nat) {n : Nat}
    (hs : m.screen.pixels.size = width * height) (hn : n ≤ height)
    (hi : m.index.toNat + n ≤ m.memory.size) :
    ∃ screen hit, m.draw x y n = .done ({ m with screen }.setFlag hit) ∧
      m.screen.Drawn m.memory m.index.toNat n ((m.reg x).toNat % width) ((m.reg y).toNat % height)
        screen hit :=
  ⟨_, _, draw_of_le hi, drawn_plot hs (Nat.mod_lt _ (by decide)) (Nat.mod_lt _ (by decide)) hn⟩

/-- **Drawing is exact.**  A sprite that lies in memory is drawn without a fault: every pixel under
a set bit changes and no other does, the flag register is 1 if one of those pixels was on and 0
otherwise, and nothing else is touched, no other register among it.  The corner of the sprite is
read from the registers as they were before, and so is the screen. -/
theorem draw_exact {m : Machine} (x y : Nat) {n : Nat}
    (hs : m.screen.pixels.size = width * height) (hn : n ≤ height)
    (hi : m.index.toNat + n ≤ m.memory.size) :
    ∃ screen hit, m.draw x y n = .done ({ m with screen }.setFlag hit) ∧
      screen.pixels.size = width * height ∧
      (∀ p < width, ∀ q < height, screen.get p q =
        (m.screen.get p q ^^ m.memory.spriteBit m.index.toNat n ((m.reg x).toNat % width)
          ((m.reg y).toNat % height) p q)) ∧
      (hit = true ↔ ∃ p < width, ∃ q < height,
        m.memory.spriteBit m.index.toNat n ((m.reg x).toNat % width)
          ((m.reg y).toNat % height) p q = true ∧ m.screen.get p q = true) ∧
      (m.draw x y n).state.reg 0xf = (if hit then 1 else 0) ∧
      ∀ k ≠ 0xf, (m.draw x y n).state.reg k = m.reg k := by
  obtain ⟨screen, hit, hdraw, hdrawn⟩ := exists_draw x y hs hn hi
  have hstate : (m.draw x y n).state = { m with screen }.setFlag hit :=
    congrArg Outcome.state hdraw
  obtain ⟨hflag, hregs⟩ := reg_of_eq_setFlag hstate
  exact ⟨screen, hit, hdraw, hdrawn.size, hdrawn.get, hdrawn.hit, hflag, hregs⟩

/-- The glyph of the digit 0, drawn over the lower right corner of the screen, comes in again at the
other two edges, and turns off the one pixel that was on. -/
theorem draw_exact_over_corner :
    let lit := (dark.toggle ⟨1, 0, true⟩).1
    let m := (({ index := 0x50, screen := lit } : Machine).setReg 0 62).setReg 1 30
    ∃ screen hit, m.draw 0 1 5 = .done ({ m with screen }.setFlag hit) ∧
      screen.get 1 2 = true ∧ screen.get 0 31 = false ∧ screen.get 1 0 = false ∧
      (m.draw 0 1 5).state.reg 0xf = 1 ∧ (m.draw 0 1 5).state.reg 1 = 30 := by
  intro lit m
  have hi : m.index.toNat + 5 ≤ m.memory.size := by
    rw [show m.memory.size = 4096 from Memory.size_initial]
    decide
  have hs : m.screen.pixels.size = width * height :=
    (size_toggle dark _).trans Array.size_replicate
  obtain ⟨screen, hit, hdraw, -, hget, hiff, hflag, hregs⟩ := draw_exact 0 1 hs (by decide) hi
  have hhit : hit = true :=
    hiff.2 ⟨1, by decide, 0, by decide, by decide +kernel, by decide +kernel⟩
  refine ⟨screen, hit, hdraw, ?_, ?_, ?_, ?_, ?_⟩
  · rw [hget 1 (by decide) 2 (by decide)]
    decide +kernel
  · rw [hget 0 (by decide) 31 (by decide)]
    decide +kernel
  · rw [hget 1 (by decide) 0 (by decide)]
    decide +kernel
  · rw [hflag, hhit]
    rfl
  · rw [hregs 1 (by decide)]
    rfl

end Machine

end Chip8
