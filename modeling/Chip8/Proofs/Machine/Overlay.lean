import Chip8.Proofs.Machine.Drawing

/-!
# Sprites on top of each other

Drawing changes the pixels under the set bits of a sprite and leaves the others, whatever was on the
screen before.  So of the sprites that lie over a pixel only the number matters, and of that only
whether it is odd: the order of drawings does not show on the screen, and a drawing made twice takes
itself back.  The flag register is another matter, since it depends on what the sprite has met.

## What is here

* `Stamp` — a sprite to be drawn, with the two registers that hold its corner; the flag register is
  neither of them, and the sprite lies in memory.
* `Machine.place`, `Machine.stamp`, `Machine.overlay` — placing a corner, drawing there, and drawing
  one sprite after another.
* `Machine.stamp_exact` — what one drawing does, and `Machine.overlay_exact` — what many do.
* `Machine.draw_draw` — the same drawing twice.
* `Machine.overlay_order_and_cancellation` — the three of them together.
-/

set_option autoImplicit false

namespace Chip8

open Screen

/-! ## Sprites to be drawn -/

/-- A sprite to be drawn. -/
structure Stamp where
  /-- The register for the column of its corner. -/
  x : UInt64
  /-- The register for the row of its corner. -/
  y : UInt64
  /-- The column of its corner. -/
  column : UInt8
  /-- The row of its corner. -/
  row : UInt8
  /-- Where its rows begin in memory. -/
  address : UInt16
  /-- The number of its rows. -/
  height : UInt8
  x_lt : x.toNat < 0xf
  y_lt : y.toNat < 0xf
  /-- One register cannot hold two values. -/
  column_eq_row : x = y → column = row
  height_lt : height.toNat < 0x10
  fits : address.toNat + height.toNat ≤ Memory.capacity

namespace Stamp

/-- A set bit of the sprite lies over the pixel at column `p` and row `q`. -/
def covers (s : Stamp) (m : Memory) (p q : Nat) : Bool :=
  m.spriteBit s.address.toNat s.height.toNat (s.column.toNat % width)
    (s.row.toNat % Screen.height) p q

/-- An odd number of the sprites lie over the pixel at column `p` and row `q`. -/
def parity (ss : List Stamp) (m : Memory) (p q : Nat) : Bool :=
  decide ((ss.countP fun s => s.covers m p q) % 2 = 1)

variable {s : Stamp} {ss ts : List Stamp} {m : Memory} {p q : Nat}

theorem parity_nil : parity [] m p q = false := rfl

theorem parity_cons : parity (s :: ss) m p q = (s.covers m p q ^^ parity ss m p q) := by
  rw [parity, parity, List.countP_cons]
  generalize (ss.countP fun s => s.covers m p q) = k
  cases s.covers m p q with
  | false => simp
  | true =>
    rw [if_pos rfl, Bool.true_xor, ← decide_not, decide_eq_decide]
    omega

/-- Whether the number is odd does not depend on the order. -/
theorem parity_perm (h : ss.Perm ts) : parity ss m p q = parity ts m p q := by
  rw [parity, parity, h.countP_eq]

end Stamp

namespace Machine

variable {m m' : Machine} {random : UInt8}

/-- The corner of a sprite in its two registers, and the index at its rows. -/
def place (s : Stamp) (m : Machine) : Machine :=
  { (m.setReg s.x.toNat s.column).setReg s.y.toNat s.row with index := s.address }

/-- Draws a sprite, after its corner was placed. -/
def stamp (random : UInt8) (s : Stamp) (m : Machine) : Executed :=
  (m.place s).execute random (.draw s.x s.y s.height)

/-- Draws sprites one after another, up to the first that cannot be drawn. -/
def overlay (random : UInt8) : List Stamp → Machine → Except Fault Machine
  | [], m => .ok m
  | s :: ss, m =>
    let drawn := m.stamp random s
    match drawn.result with
    | .ok () => overlay random ss drawn.state
    | .error f => .error f

/-! ## One drawing -/

theorem reg_place_x (m : Machine) (s : Stamp) : (m.place s).reg s.x.toNat = s.column := by
  show ((m.setReg s.x.toNat s.column).setReg s.y.toNat s.row).reg s.x.toNat = s.column
  have hx := s.x_lt
  rw [reg_setReg]
  by_cases h : s.x = s.y
  · rw [if_pos ⟨by rw [h], by rw [← h]; omega⟩, s.column_eq_row h]
  · rw [if_neg fun e => h (UInt64.toNat_inj.1 e.1), reg_setReg, if_pos ⟨rfl, by omega⟩]

theorem reg_place_y (m : Machine) (s : Stamp) : (m.place s).reg s.y.toNat = s.row := by
  show ((m.setReg s.x.toNat s.column).setReg s.y.toNat s.row).reg s.y.toNat = s.row
  have hy := s.y_lt
  rw [reg_setReg, if_pos ⟨rfl, by omega⟩]

/-- **One drawing** succeeds, changes the pixels that the sprite covers, and leaves memory. -/
theorem stamp_exact (hs : m.screen.pixels.size = width * height)
    (hm : m.memory.size = Memory.capacity) (random : UInt8) (s : Stamp) :
    ∃ m', m.stamp random s = .done m' ∧ m'.memory = m.memory ∧
      m'.screen.pixels.size = width * height ∧
      ∀ p < width, ∀ q < height,
        m'.screen.get p q = (m.screen.get p q ^^ s.covers m.memory p q) := by
  have hn : s.height.toNat ≤ height := Nat.le_trans (Nat.le_of_lt s.height_lt) (by decide)
  have hfits : (m.place s).index.toNat + s.height.toNat ≤ (m.place s).memory.size :=
    Nat.le_trans s.fits (Nat.le_of_eq hm.symm)
  obtain ⟨screen, hit, hdraw, hdrawn⟩ :=
    exists_draw (m := m.place s) s.x.toNat s.y.toNat hs hn hfits
  rw [reg_place_x, reg_place_y] at hdrawn
  exact ⟨_, hdraw, rfl, hdrawn.size, hdrawn.get⟩

/-! ## Many drawings -/

/-- **Any number of drawings** succeed, change the pixels that an odd number of the sprites cover,
and leave memory. -/
theorem overlay_exact (hs : m.screen.pixels.size = width * height)
    (hm : m.memory.size = Memory.capacity) (random : UInt8) (ss : List Stamp) :
    ∃ m', m.overlay random ss = .ok m' ∧ m'.memory = m.memory ∧
      m'.screen.pixels.size = width * height ∧
      ∀ p < width, ∀ q < height,
        m'.screen.get p q = (m.screen.get p q ^^ Stamp.parity ss m.memory p q) := by
  induction ss generalizing m with
  | nil =>
    refine ⟨m, rfl, rfl, hs, fun p _ q _ => ?_⟩
    rw [Stamp.parity_nil, Bool.xor_false]
  | cons s ss ih =>
    obtain ⟨m₁, hstamp, hmem₁, hsize₁, hget₁⟩ := stamp_exact hs hm random s
    obtain ⟨m₂, hrest, hmem₂, hsize₂, hget₂⟩ := ih hsize₁ (by rw [hmem₁, hm])
    refine ⟨m₂, ?_, hmem₂.trans hmem₁, hsize₂, fun p hp q hq => ?_⟩
    · rw [overlay, hstamp]
      exact hrest
    · rw [hget₂ p hp q hq, hget₁ p hp q hq, hmem₁, Stamp.parity_cons, Bool.xor_assoc]

/-! ## The same drawing twice -/

theorem setFlag_setFlag (m : Machine) (a b : Bool) : (m.setFlag a).setFlag b = m.setFlag b := by
  rw [setFlag, setFlag, setFlag, setReg, setReg, setReg, Vector.setIfInBounds_setIfInBounds]

/-- The sprite of `n` rows that the index points at, with its corner in registers `x` and `y`, has a
set bit over the pixel at column `p` and row `q`. -/
def spriteOver (m : Machine) (x y n p q : Nat) : Bool :=
  m.memory.spriteBit m.index.toNat n ((m.reg x).toNat % width) ((m.reg y).toNat % height) p q

/-- **The second of two equal drawings takes the first one back**: nothing is left of the two but
the flag register, which then tells whether the first has turned a pixel on.  The registers of the
corner must not be the flag register, which the first drawing changes. -/
theorem draw_draw {x y n : Nat} (hs : m.screen.pixels.size = width * height) (hn : n ≤ height)
    (hfits : m.index.toNat + n ≤ m.memory.size) (hx : x < 0xf) (hy : y < 0xf) :
    (m.draw x y n).result = .ok () ∧
      ∃ hit, (m.draw x y n).state.draw x y n = .done (m.setFlag hit) ∧
        (hit = true ↔ ∃ p < width, ∃ q < height,
          m.spriteOver x y n p q = true ∧ m.screen.get p q = false) := by
  obtain ⟨screen₁, hit₁, hdraw₁, hdrawn₁⟩ := exists_draw x y hs hn hfits
  rw [hdraw₁]
  refine ⟨rfl, ?_⟩
  obtain ⟨screen₂, hit₂, hdraw₂, hdrawn₂⟩ :=
    exists_draw (m := { m with screen := screen₁ }.setFlag hit₁) x y hdrawn₁.size hn hfits
  rw [reg_setFlag, if_neg (Nat.ne_of_lt hx), reg_setFlag, if_neg (Nat.ne_of_lt hy)] at hdrawn₂
  have hget : ∀ p < width, ∀ q < height, screen₂.get p q = m.screen.get p q := by
    intro p hp q hq
    calc screen₂.get p q = (screen₁.get p q ^^ m.spriteOver x y n p q) := hdrawn₂.get p hp q hq
      _ = (m.screen.get p q ^^ m.spriteOver x y n p q ^^ m.spriteOver x y n p q) :=
          congrArg (· ^^ _) (hdrawn₁.get p hp q hq)
      _ = m.screen.get p q := by rw [Bool.xor_assoc, Bool.xor_self, Bool.xor_false]
  have hback : screen₂ = m.screen := Screen.ext_get hdrawn₂.size hs hget
  refine ⟨hit₂, ?_, hdrawn₂.hit.trans ?_⟩
  · refine hdraw₂.trans ?_
    rw [hback]
    exact congrArg Outcome.done (setFlag_setFlag m hit₁ hit₂)
  · refine exists_congr fun p => and_congr_right fun hp => exists_congr fun q =>
      and_congr_right fun hq => and_congr_right fun hover => ?_
    have hflip : screen₁.get p q = !m.screen.get p q := by
      rw [hdrawn₁.get p hp q hq, ← Bool.xor_true]
      exact congrArg (m.screen.get p q ^^ ·) hover
    show screen₁.get p q = true ↔ _
    rw [hflip, Bool.not_eq_true']

/-! ## All of it -/

/-- **Drawings add up, pixel by pixel.**  Any list of sprites can be drawn, and a pixel is then the
other way from before iff an odd number of them cover it; in another order the same sprites leave
the same screen.  A drawing that is made twice in a row leaves no more than the flag register, which
is 1 iff one of its bits lies over a pixel that was off at first. -/
theorem overlay_order_and_cancellation (hs : m.screen.pixels.size = width * height)
    (hm : m.memory.size = Memory.capacity) (random : UInt8) :
    (∀ ss : List Stamp, ∃ m', m.overlay random ss = .ok m' ∧
      m'.screen.pixels.size = width * height ∧
      (∀ p < width, ∀ q < height, m'.screen.get p q =
        (m.screen.get p q ^^ decide ((ss.countP fun s => s.covers m.memory p q) % 2 = 1))) ∧
      ∀ ts, ss.Perm ts → ∃ m'', m.overlay random ts = .ok m'' ∧ m''.screen = m'.screen) ∧
    ∀ x y n, x.toNat < 0xf → y.toNat < 0xf → n.toNat < 0x10 →
      m.index.toNat + n.toNat ≤ Memory.capacity →
      let first := m.execute random (.draw x y n)
      let second := first.state.execute random (.draw x y n)
      first.result = .ok () ∧ ∃ hit, second = .done (m.setFlag hit) ∧
        (hit = true ↔ ∃ p < width, ∃ q < height,
          m.spriteOver x.toNat y.toNat n.toNat p q = true ∧ m.screen.get p q = false) ∧
        second.state.reg 0xf = (if hit then 1 else 0) ∧
        ∀ k ≠ 0xf, second.state.reg k = m.reg k := by
  refine ⟨fun ss => ?_, ?_⟩
  · obtain ⟨m', hrun, -, hsize, hget⟩ := overlay_exact hs hm random ss
    refine ⟨m', hrun, hsize, hget, fun ts hperm => ?_⟩
    obtain ⟨m'', hrun', -, hsize', hget'⟩ := overlay_exact hs hm random ts
    refine ⟨m'', hrun', Screen.ext_get hsize' hsize fun p hp q hq => ?_⟩
    rw [hget p hp q hq, hget' p hp q hq, Stamp.parity_perm hperm]
  · intro x y n hx hy hn hfits first second
    have hheight : n.toNat ≤ height := Nat.le_trans (Nat.le_of_lt hn) (by decide)
    have hfits' : m.index.toNat + n.toNat ≤ m.memory.size := hm.symm ▸ hfits
    obtain ⟨hfirst, hit, hsecond, hiff⟩ := draw_draw hs hheight hfits' hx hy
    exact ⟨hfirst, hit, hsecond, hiff, reg_of_eq_setFlag (congrArg Outcome.state hsecond)⟩

/-- The glyph of the digit 0 over the lower right corner, the one of the digit 1 with both
coordinates in one register, and the first glyph again.  The pixel at column 1 and row 0
lies under all three. -/
theorem overlay_order_and_cancellation_of_glyphs :
    let m : Machine := { index := 0x50 }
    let zero : Stamp :=
      ⟨0, 1, 62, 30, 0x50, 5, by decide, by decide, by decide, by decide, by decide⟩
    let one : Stamp :=
      ⟨2, 2, 63, 63, 0x55, 5, by decide, by decide, by decide, by decide, by decide⟩
    (∃ m' m'', m.overlay 0 [zero, one, zero] = .ok m' ∧ m.overlay 0 [one, zero, zero] = .ok m'' ∧
      m''.screen = m'.screen ∧ m'.screen.get 62 30 = false ∧ m'.screen.get 1 0 = true) ∧
    let second := (m.execute 0 (.draw 0 1 5)).state.execute 0 (.draw 0 1 5)
    second = .done (m.setFlag true) ∧ second.state.reg 0xf = 1 := by
  intro m zero one
  have hs : m.screen.pixels.size = width * height := Array.size_replicate
  have hm : m.memory.size = Memory.capacity := Memory.size_initial
  obtain ⟨hmany, htwice⟩ := overlay_order_and_cancellation hs hm 0
  constructor
  · obtain ⟨m', hrun, -, hget, hperm⟩ := hmany [zero, one, zero]
    obtain ⟨m'', hrun', hsame⟩ := hperm [one, zero, zero] (.swap one zero [zero])
    refine ⟨m', m'', hrun, hrun', hsame, ?_, ?_⟩
    · rw [hget 62 (by decide) 30 (by decide)]
      decide +kernel
    · rw [hget 1 (by decide) 0 (by decide)]
      decide +kernel
  · obtain ⟨-, hit, hsecond, hiff, hflag, -⟩ :=
      htwice 0 1 5 (by decide) (by decide) (by decide) (by decide)
    have hhit : hit = true :=
      hiff.2 ⟨0, by decide, 0, by decide, by decide +kernel, by decide +kernel⟩
    rw [hhit] at hsecond hflag
    exact ⟨hsecond, hflag⟩

end Machine

end Chip8
