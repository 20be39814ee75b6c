import Chip8.Proofs.Screen.Plot

/-!
# Counting lit pixels

A toggle that answers yes has turned its pixel off.  One that answers no has turned its pixel on,
unless it was to leave it.  So the number of lit pixels can be kept by counting answers, without
looking at the screen, and it does not matter how often the toggles fall on the same pixel.

Every toggle that is not to leave its pixel does one or the other.  Hence the toggles that turn a
pixel off cost the number of lit pixels two each, against the case that all of them turn one on.

## What is here

* `Screen.turnedOn`, `Screen.turnedOff` — the toggles of a list that do the one and the other;
  `turnedOn_add_turnedOff`, that there is no third.
* `Screen.lit_toggle`, `Screen.lit_plot` — the number of lit pixels after a toggle
  and after a list of them.
* `Screen.setBits` — the set bits of the rows of a sprite, which
  `countP_on_spriteDots` counts as toggles.
-/

set_option autoImplicit false

namespace Chip8.Screen

variable {s : Screen} {d : Dot} {ds : List Dot}

theorem lit_dark : dark.lit = 0 := by
  rw [lit, dark, Array.count_replicate]
  rfl

/-! ## One toggle -/

/-- A toggle that is to leave its pixel answers no and changes nothing. -/
theorem toggle_of_off (hd : d.on = false) (s : Screen) : s.toggle d = (s, false) := by
  have hkept : s.pixels.setIfInBounds (index d.x d.y) (s.pixels.getD (index d.x d.y) false) =
      s.pixels := by
    refine Array.ext_getElem? fun k => ?_
    rw [Array.getElem?_setIfInBounds]
    by_cases hk : index d.x d.y = k
    · subst hk
      by_cases hin : index d.x d.y < s.pixels.size <;> simp [hin]
    · rw [if_neg hk]
  rw [toggle, hd, Bool.and_false, Bool.xor_false, hkept]

theorem ite_eq_toNat (b : Bool) : (if b = true then 1 else 0) = b.toNat := by
  cases b <;> rfl

/-- The number of lit pixels after a pixel was set. -/
theorem lit_set (s : Screen) {k : Nat} (hk : k < s.pixels.size) (b : Bool) :
    (Screen.mk (s.pixels.set k b hk)).lit + s.pixels[k].toNat = s.lit + b.toNat := by
  have hle := Array.boole_getElem_le_count (a := true) hk
  rw [beq_true, ite_eq_toNat] at hle
  rw [lit, lit, Array.count_set hk, beq_true, beq_true, ite_eq_toNat, ite_eq_toNat]
  omega

/-- **A toggle moves the number of lit pixels by one**: up if it answers no, unless it is to leave
its pixel, and down if it answers yes. -/
theorem lit_toggle (hs : s.pixels.size = width * height) (d : Dot) :
    (s.toggle d).1.lit + (s.toggle d).2.toNat = s.lit + (d.on && !(s.toggle d).2).toNat := by
  have hk : index d.x d.y < s.pixels.size := hs ▸ index_lt d.x d.y
  have hold : s.pixels.getD (index d.x d.y) false = s.pixels[index d.x d.y] := by
    simp [hk]
  have hset := s.lit_set hk (s.pixels[index d.x d.y] ^^ d.on)
  rw [toggle, hold, Array.setIfInBounds, dif_pos hk]
  generalize s.pixels[index d.x d.y] = old, d.on = on at hset ⊢
  cases old <;> cases on <;> simpa using hset

/-! ## A list of toggles -/

/-- The number of toggles that turn a pixel on: those that are not to leave it and answer no. -/
def turnedOn (s : Screen) (ds : List Dot) : Nat :=
  (ds.zip (s.answers ds)).countP fun a => a.1.on && !a.2

/-- The number of toggles that turn a pixel off: those that answer yes. -/
def turnedOff (s : Screen) (ds : List Dot) : Nat := (s.answers ds).count true

theorem countP_cons_toNat {α : Type} (p : α → Bool) (a : α) (as : List α) :
    (a :: as).countP p = as.countP p + (p a).toNat := by
  rw [List.countP_cons, ite_eq_toNat]

theorem turnedOn_cons (s : Screen) (d : Dot) (ds : List Dot) :
    s.turnedOn (d :: ds) = (s.toggle d).1.turnedOn ds + (d.on && !(s.toggle d).2).toNat :=
  countP_cons_toNat _ _ _

theorem turnedOff_cons (s : Screen) (d : Dot) (ds : List Dot) :
    s.turnedOff (d :: ds) = (s.toggle d).1.turnedOff ds + (s.toggle d).2.toNat := by
  rw [turnedOff, answers, List.count_cons, beq_true, ite_eq_toNat, turnedOff]

/-- **The number of lit pixels can be kept by counting answers.** -/
theorem lit_plot (hs : s.pixels.size = width * height) (ds : List Dot) :
    (s.plot ds).1.lit + s.turnedOff ds = s.lit + s.turnedOn ds := by
  induction ds generalizing s with
  | nil => rfl
  | cons d ds ih =>
    have hfirst := lit_toggle hs d
    have hrest : ((s.toggle d).1.plot ds).1.lit + (s.toggle d).1.turnedOff ds =
        (s.toggle d).1.lit + (s.toggle d).1.turnedOn ds := ih (by rw [size_toggle, hs])
    rw [turnedOn_cons, turnedOff_cons]
    show ((s.toggle d).1.plot ds).1.lit + _ = _
    omega

/-- Every toggle that is not to leave its pixel turns it on or off, and no other does. -/
theorem turnedOn_add_turnedOff (s : Screen) (ds : List Dot) :
    s.turnedOn ds + s.turnedOff ds = ds.countP (·.on) := by
  induction ds generalizing s with
  | nil => rfl
  | cons d ds ih =>
    have hone : (d.on && !(s.toggle d).2).toNat + (s.toggle d).2.toNat = d.on.toNat := by
      rw [show (s.toggle d).2 = (s.pixels.getD (index d.x d.y) false && d.on) from rfl]
      cases s.pixels.getD (index d.x d.y) false <;> cases d.on <;> rfl
    rw [turnedOn_cons, turnedOff_cons, countP_cons_toNat, ← ih (s.toggle d).1]
    omega

/-- What is lit after a list of toggles, if all but those that turn a pixel off had turned one
on. -/
theorem lit_plot_of_on (hs : s.pixels.size = width * height) (ds : List Dot) :
    (s.plot ds).1.lit + 2 * s.turnedOff ds = s.lit + ds.countP (·.on) := by
  have hlit := lit_plot hs ds
  have hon := turnedOn_add_turnedOff s ds
  omega

/-- Toggles of different pixels turn off those that were lit at the start. -/
theorem turnedOff_of_distinct (hs : s.pixels.size = width * height) (hd : Distinct ds) :
    s.turnedOff ds = ds.countP fun d => d.on && s.get d.x d.y := by
  rw [turnedOff, answers_of_distinct hs hd, List.count_eq_countP, List.countP_map]
  simp only [Function.comp_def, beq_true]

theorem snd_plot_eq_false_iff : (s.plot ds).2 = false ↔ s.turnedOff ds = 0 := by
  rw [snd_plot, turnedOff, List.count_eq_zero, List.any_eq_false]
  exact ⟨fun h htrue => h true htrue rfl, fun h b hb hid => h (hid ▸ hb)⟩

/-! ## The toggles of a sprite -/

/-- The number of set bits in the rows of a sprite. -/
def setBits : List UInt8 → Nat
  | [] => 0
  | row :: rows => (List.range 8).countP row.toNat.testBit + setBits rows

example : setBits [0xf0, 0x90, 0x90, 0x90, 0xf0] = 14 := by decide

/-- A row of a sprite has its highest bit on the left, which does not matter for the number. -/
theorem countP_on_rowDots (x y : Nat) (row : UInt8) :
    (rowDots x y row).countP (·.on) = (List.range 8).countP row.toNat.testBit := by
  have hrev : (List.range 8).map (7 - ·) = (List.range 8).reverse := by decide
  calc (rowDots x y row).countP (·.on)
    _ = ((List.range 8).map (7 - ·)).countP row.toNat.testBit := by
      rw [rowDots, List.countP_map, List.countP_map]
      rfl
    _ = (List.range 8).countP row.toNat.testBit := by rw [hrev, List.countP_reverse]

/-- The toggles of a sprite are as many as its rows have set bits, apart from those that leave their
pixel. -/
theorem countP_on_spriteDots (x y : Nat) (rows : List UInt8) :
    (spriteDots x y rows).countP (·.on) = setBits rows := by
  induction rows generalizing y with
  | nil => rfl
  | cons row rows ih =>
    rw [spriteDots, List.countP_append, countP_on_rowDots, ih]
    rfl

end Chip8.Screen
