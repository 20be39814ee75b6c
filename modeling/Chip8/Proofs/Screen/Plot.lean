import Chip8.Screen.Basic

/-!
# What a list of toggles does to the screen

Toggles of one pixel cancel in pairs, so after a list of them a pixel has changed iff an odd number
of them fell on it.  The toggles of a sprite fall on pairwise different pixels, as long as the
sprite is no higher than the screen; hence every toggle finds the pixel as it was at the start.

## What is here

* `Dot.place` — the pixel that a toggle falls on, which `exists_place_eq` gives by column and row,
  and `index_eq_iff`, when it is the same.
* `Screen.ext_get` — a screen is known by its pixels.
* `Screen.flips`, `Screen.get_plot` — whether a list of toggles changes a pixel, and that it does.
* `Screen.answers`, `Screen.snd_plot` — what each of a list of toggles answers, and all of them.
* `Screen.flips_of_distinct`, `Screen.answers_of_distinct`, `Screen.snd_plot_of_distinct` —
  toggles of different pixels.
* `Screen.mem_spriteDots`, `Screen.distinct_spriteDots` — the toggles of a sprite.
-/

set_option autoImplicit false

namespace Chip8

/-- The place of the pixel that a toggle falls on. -/
def Dot.place (d : Dot) : Nat := Screen.index d.x d.y

namespace Screen

variable {s : Screen} {ds : List Dot}

/-- Two pairs of coordinates name the same pixel iff they agree around the screen. -/
theorem index_eq_iff {x y x' y' : Nat} :
    index x y = index x' y' ↔ x % width = x' % width ∧ y % height = y' % height := by
  simp only [index, width, height]
  omega

/-- Every toggle falls on a pixel of the screen. -/
theorem exists_place_eq (d : Dot) : ∃ p < width, ∃ q < height, d.place = index p q :=
  ⟨d.x % width, Nat.mod_lt _ (by decide), d.y % height, Nat.mod_lt _ (by decide),
    index_eq_iff.2 ⟨(Nat.mod_mod _ _).symm, (Nat.mod_mod _ _).symm⟩⟩

theorem get_of_place {d : Dot} {p q : Nat} (h : d.place = index p q) : s.get d.x d.y = s.get p q :=
  congrArg (s.pixels.getD · false) h

/-- **A screen is its pixels**: screens of the usual size that agree at every column and row are the
same. -/
theorem ext_get {t : Screen} (hs : s.pixels.size = width * height)
    (ht : t.pixels.size = width * height)
    (h : ∀ p < width, ∀ q < height, s.get p q = t.get p q) : s = t := by
  refine congrArg Screen.mk (Array.ext (hs.trans ht.symm) fun k hk hk' => ?_)
  have hplace : k < 64 * 32 := Nat.lt_of_lt_of_eq hk hs
  have hp : k % width < width := Nat.mod_lt k (by decide)
  have hq : k / width < height := by
    simp only [width, height]
    omega
  have hindex : index (k % width) (k / width) = k := by
    simp only [index, width, height]
    omega
  have hpixel := h (k % width) hp (k / width) hq
  rw [get, get, hindex, Array.getD_eq_getD_getElem?, Array.getD_eq_getD_getElem?] at hpixel
  simpa only [Array.getElem?_eq_getElem hk, Array.getElem?_eq_getElem hk', Option.getD_some]
    using hpixel

/-! ## Any toggles -/

/-- An odd number of the toggles fall on place `k`. -/
def flips : List Dot → Nat → Bool
  | [], _ => false
  | d :: ds, k => (d.on && d.place == k) ^^ flips ds k

/-- **A pixel changes iff an odd number of toggles fall on it.** -/
theorem get_plot (hs : s.pixels.size = width * height) (ds : List Dot) (x y : Nat) :
    (s.plot ds).1.get x y = (s.get x y ^^ flips ds (index x y)) := by
  induction ds generalizing s with
  | nil => rw [plot, flips, Bool.xor_false]
  | cons d ds ih =>
    have hs' : (s.toggle d).1.pixels.size = width * height := by rw [size_toggle, hs]
    show ((s.toggle d).1.plot ds).1.get x y = _
    rw [ih hs', get_toggle hs, flips, ← Bool.xor_assoc, Dot.place]
    by_cases h : index x y = index d.x d.y
    · rw [if_pos h, h, beq_self_eq_true, Bool.and_true]
    · rw [if_neg h, beq_false_of_ne (Ne.symm h), Bool.and_false, Bool.xor_false]

/-- What each of a list of toggles answers, done in order. -/
def answers (s : Screen) : List Dot → List Bool
  | [] => []
  | d :: ds => (s.toggle d).2 :: (s.toggle d).1.answers ds

/-- A list of toggles tells whether one of them answers yes. -/
theorem snd_plot (s : Screen) (ds : List Dot) : (s.plot ds).2 = (s.answers ds).any id := by
  induction ds generalizing s with
  | nil => rfl
  | cons d ds ih =>
    rw [answers, List.any_cons, ← ih]
    rfl

/-! ## Toggles of different pixels -/

/-- No two of the toggles fall on one pixel. -/
def Distinct (ds : List Dot) : Prop := ds.Pairwise fun d e => d.place ≠ e.place

theorem flips_eq_false {k : Nat} (h : ∀ d ∈ ds, d.place ≠ k) : flips ds k = false := by
  induction ds with
  | nil => rfl
  | cons d ds ih =>
    rw [flips, beq_false_of_ne (h d List.mem_cons_self), Bool.and_false,
      ih fun e he => h e (List.mem_cons_of_mem d he), Bool.xor_false]

theorem flips_of_distinct (hd : Distinct ds) (k : Nat) :
    flips ds k = ds.any fun d => d.on && d.place == k := by
  induction ds with
  | nil => rfl
  | cons d ds ih =>
    obtain ⟨hne, hds⟩ := List.pairwise_cons.1 hd
    rw [flips, List.any_cons, ← ih hds]
    by_cases h : d.place = k
    · rw [flips_eq_false fun e he => h ▸ (hne e he).symm, Bool.xor_false, Bool.or_false]
    · rw [beq_false_of_ne h, Bool.and_false, Bool.false_xor, Bool.false_or]

/-- **Toggles of different pixels find every pixel as it was at the start.** -/
theorem answers_of_distinct (hs : s.pixels.size = width * height) (hd : Distinct ds) :
    s.answers ds = ds.map fun d => d.on && s.get d.x d.y := by
  induction ds generalizing s with
  | nil => rfl
  | cons d ds ih =>
    obtain ⟨hne, hds⟩ := List.pairwise_cons.1 hd
    have hs' : (s.toggle d).1.pixels.size = width * height := by rw [size_toggle, hs]
    have hrest : ∀ e ∈ ds, (e.on && (s.toggle d).1.get e.x e.y) = (e.on && s.get e.x e.y) := by
      intro e he
      rw [get_toggle hs, if_neg (show ¬ index e.x e.y = index d.x d.y from (hne e he).symm)]
    rw [answers, ih hs' hds, List.map_cons, List.map_congr_left hrest, Bool.and_comm d.on]
    rfl

/-- So one of them turns a pixel off iff one of them falls on a pixel that was on. -/
theorem snd_plot_of_distinct (hs : s.pixels.size = width * height) (hd : Distinct ds) :
    (s.plot ds).2 = ds.any fun d => d.on && s.get d.x d.y := by
  rw [snd_plot, answers_of_distinct hs hd, List.any_map]
  rfl

/-! ## The toggles of a sprite -/

theorem mem_rowDots {x y : Nat} {row : UInt8} {d : Dot} :
    d ∈ rowDots x y row ↔ ∃ c < 8, d = ⟨x + c, y, row.toNat.testBit (7 - c)⟩ := by
  rw [rowDots, List.mem_map]
  simp only [List.mem_range, eq_comm]

theorem mem_spriteDots {x y : Nat} {rows : List UInt8} {d : Dot} :
    d ∈ spriteDots x y rows ↔
      ∃ r c, ∃ h : r < rows.length, c < 8 ∧
        d = ⟨x + c, y + r, rows[r].toNat.testBit (7 - c)⟩ := by
  induction rows generalizing y with
  | nil =>
    rw [spriteDots]
    exact ⟨fun h => absurd h List.not_mem_nil, fun ⟨r, c, h, _⟩ => absurd h (Nat.not_lt_zero r)⟩
  | cons row rows ih =>
    rw [spriteDots, List.mem_append, mem_rowDots, ih]
    constructor
    · rintro (⟨c, hc, rfl⟩ | ⟨r, c, hr, hc, rfl⟩)
      · exact ⟨0, c, Nat.succ_pos _, hc, rfl⟩
      · exact ⟨r + 1, c, Nat.succ_lt_succ hr, hc, by rw [Nat.add_right_comm y 1 r]; rfl⟩
    · rintro ⟨r, c, hr, hc, rfl⟩
      cases r with
      | zero => exact .inl ⟨c, hc, rfl⟩
      | succ r =>
        exact .inr ⟨r, c, Nat.lt_of_succ_lt_succ hr, hc, by rw [Nat.add_right_comm y 1 r]; rfl⟩

theorem distinct_rowDots (x y : Nat) (row : UInt8) : Distinct (rowDots x y row) := by
  refine List.pairwise_map.2 (List.nodup_range.imp_of_mem fun {a b} ha hb hne h => hne ?_)
  have ha := List.mem_range.1 ha
  have hb := List.mem_range.1 hb
  have hx := (index_eq_iff.1 h).1
  simp only [width] at hx
  omega

/-- **No two toggles of a sprite fall on one pixel**, unless the sprite is higher than the screen
and meets itself. -/
theorem distinct_spriteDots (x y : Nat) {rows : List UInt8} (h : rows.length ≤ height) :
    Distinct (spriteDots x y rows) := by
  induction rows generalizing y with
  | nil => exact .nil
  | cons row rows ih =>
    rw [List.length_cons] at h
    refine List.pairwise_append.2 ⟨distinct_rowDots x y row, ih (y + 1) (by omega), ?_⟩
    intro a ha b hb hab
    obtain ⟨c, hc, rfl⟩ := mem_rowDots.1 ha
    obtain ⟨r, c', hr, hc', rfl⟩ := mem_spriteDots.1 hb
    have hy := (index_eq_iff.1 hab).2
    simp only [height] at hy h
    omega

end Screen

end Chip8
