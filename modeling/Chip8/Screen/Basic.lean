/-!
# The screen

The screen is a grid of 64 columns and 32 rows of pixels, each on or off, kept row by row.  Both
directions wrap around: a column or row beyond the edge is counted from the other side again.  A
stored screen may hold another number of pixels, and then places beyond its end are off and cannot
be changed.

## What is here

* `Screen` — the pixels, and `Screen.dark`, the screen with all of them off.
* `get`, `toggle` — one pixel; a toggle also tells whether it turned a pixel off.
* `lit`, `clear` — all pixels.
* `Dot`, `Screen.plot` — a list of toggles, done in order.
* `spriteDots` — the toggles that draw a sprite.
-/

set_option autoImplicit false

namespace Chip8

/-- A grid of pixels, row by row. -/
structure Screen where
  /-- The pixels in order; `true` is on. -/
  pixels : Array Bool
  deriving DecidableEq

/-- A request to toggle the pixel at column `x` and row `y`, or, if not `on`, to leave it. -/
structure Dot where
  /-- The column, counted around the screen. -/
  x : Nat
  /-- The row, counted around the screen. -/
  y : Nat
  /-- Whether the pixel is to be toggled. -/
  on : Bool
  deriving DecidableEq, Repr

namespace Screen

/-- The number of columns. -/
def width : Nat := 64

/-- The number of rows. -/
def height : Nat := 32

/-- The screen with every pixel off. -/
def dark : Screen := ⟨Array.replicate (width * height) false⟩

/-! ## One pixel -/

/-- The place of a pixel in the list of pixels. -/
def index (x y : Nat) : Nat := y % height * width + x % width

/-- Whether a pixel is on. -/
def get (s : Screen) (x y : Nat) : Bool := s.pixels.getD (index x y) false

/-- Toggles a pixel if asked to, and tells whether that turned it off. -/
def toggle (s : Screen) (d : Dot) : Screen × Bool :=
  let k := index d.x d.y
  let old := s.pixels.getD k false
  (⟨s.pixels.setIfInBounds k (old ^^ d.on)⟩, old && d.on)

theorem index_lt (x y : Nat) : index x y < width * height := by
  have hx : x % 64 < 64 := Nat.mod_lt _ (by decide)
  have hy : y % 32 < 32 := Nat.mod_lt _ (by decide)
  simp only [index, width, height]
  omega

@[simp] theorem size_toggle (s : Screen) (d : Dot) :
    (s.toggle d).1.pixels.size = s.pixels.size := by
  rw [toggle, Array.size_setIfInBounds]

/-- A toggle changes the pixel it names, counted around the screen, and no other. -/
theorem get_toggle {s : Screen} (h : s.pixels.size = width * height) (d : Dot) (x y : Nat) :
    (s.toggle d).1.get x y =
      if index x y = index d.x d.y then s.get x y ^^ d.on else s.get x y := by
  have hk : index d.x d.y < s.pixels.size := h ▸ index_lt d.x d.y
  rw [get, get, toggle, Array.getD_eq_getD_getElem?, Array.getElem?_setIfInBounds]
  by_cases e : index x y = index d.x d.y
  · rw [if_pos e, if_pos e.symm, if_pos hk, Option.getD_some, e]
  · rw [if_neg e, if_neg (Ne.symm e), ← Array.getD_eq_getD_getElem?]

/-! ## All pixels -/

/-- The number of pixels that are on. -/
def lit (s : Screen) : Nat := s.pixels.count true

/-- The screen with every pixel off. -/
def clear (s : Screen) : Screen := ⟨Array.replicate s.pixels.size false⟩

@[simp] theorem size_clear (s : Screen) : s.clear.pixels.size = s.pixels.size := by
  rw [clear, Array.size_replicate]

/-! ## Sprites -/

/-- Toggles pixels in order, and tells whether any toggle turned one off. -/
def plot (s : Screen) : List Dot → Screen × Bool
  | [] => (s, false)
  | d :: ds =>
    let (s, hit) := s.toggle d
    let (s, hits) := s.plot ds
    (s, hit || hits)

@[simp] theorem size_plot (s : Screen) (ds : List Dot) :
    (s.plot ds).1.pixels.size = s.pixels.size := by
  induction ds generalizing s with
  | nil => rfl
  | cons d ds ih => rw [plot, ih, size_toggle]

/-- The toggles of one row of a sprite: a byte, its highest bit on the left. -/
def rowDots (x y : Nat) (row : UInt8) : List Dot :=
  (List.range 8).map fun c => ⟨x + c, y, row.toNat.testBit (7 - c)⟩

/-- The toggles of a sprite with its upper left corner at column `x` and row `y`. -/
def spriteDots (x y : Nat) : List UInt8 → List Dot
  | [] => []
  | row :: rest => rowDots x y row ++ spriteDots x (y + 1) rest

end Screen

end Chip8
