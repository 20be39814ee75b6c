import Chip8.Text.Rows
import Chip8.Proofs.Text.OneLine

/-!
# Texts line by line

What is shown row by row is a text in which every line is ended by a line break.  If no line holds a
line break itself, the lines can be read back from the text; and a row is known by its place in the
list that was cut into rows.

## What is here

* `unlines`, `linesOf` — the text of some lines and the lines of a text, and `linesOf_unlines`, that
  the one undoes the other.
* `rows_eq_map` — the rows of a list by number.
-/

set_option autoImplicit false

namespace Chip8.Text

/-! ## Lines -/

/-- The lines, each ended by a line break. -/
def unlines (lines : List String) : String := String.join (lines.map (· ++ "\n"))

/-- The lines of a text in which each is ended by a line break. -/
def linesOf (t : String) : List (List Char) := (t.toList.splitOn '\n').dropLast

theorem toList_unlines (lines : List String) :
    (unlines lines).toList = lines.flatMap fun line => line.toList ++ ['\n'] := by
  rw [unlines, String.toList_join, List.flatMap_map]
  simp only [String.toList_append, show "\n".toList = ['\n'] from rfl]

theorem oneLine_join {texts : List String} (h : ∀ t ∈ texts, OneLine t) :
    OneLine (String.join texts) := by
  rw [OneLine, String.toList_join, List.mem_flatMap]
  rintro ⟨t, ht, hbreak⟩
  exact h t ht hbreak

/-- **Lines without line breaks are read as they were written.** -/
theorem linesOf_unlines {lines : List String} (h : ∀ line ∈ lines, OneLine line) :
    linesOf (unlines lines) = lines.map String.toList := by
  induction lines with
  | nil => rfl
  | cons line lines ih =>
    obtain ⟨hline, hlines⟩ := List.forall_mem_cons.1 h
    have hcons :
        (unlines (line :: lines)).toList = line.toList ++ '\n' :: (unlines lines).toList := by
      rw [toList_unlines, List.flatMap_cons, ← toList_unlines, List.append_assoc,
        List.singleton_append]
    rw [linesOf, hcons, List.splitOn_append_cons_self_of_not_mem hline,
      List.dropLast_cons_of_ne_nil (List.splitOn_ne_nil _ _), List.map_cons, ← ih hlines, linesOf]

/-! ## Rows -/

theorem rowCount_eq {n k : Nat} (hn : 0 < n) (hk : 0 < k) :
    (n + (k - 1)) / k = (n - k + (k - 1)) / k + 1 := by
  rcases Nat.lt_or_ge n k with hlt | hle
  · have hone : (n + (k - 1)) / k = 1 := Nat.div_eq_of_lt_le (by omega) (by omega)
    have hnone : (n - k + (k - 1)) / k = 0 := Nat.div_eq_of_lt (by omega)
    rw [hone, hnone]
  · rw [← Nat.add_div_right _ hk]
    congr 1
    omega

/-- **The rows by number**: row `r` begins behind the `r` rows in front of it. -/
theorem rows_eq_map {α : Type} {k : Nat} (hk : 0 < k) (xs : List α) :
    rows k xs =
      (List.range ((xs.length + (k - 1)) / k)).map fun r => (xs.drop (k * r)).take k := by
  induction hn : xs.length using Nat.strongRecOn generalizing xs with
  | _ n ih =>
    by_cases hx : xs = []
    · subst hx hn
      have hnone : (0 + (k - 1)) / k = 0 := Nat.div_eq_of_lt (by omega)
      rw [rows_nil, List.length_nil, hnone]
      rfl
    · have hpos := List.length_pos_iff.2 hx
      have hdrop : (xs.drop k).length = n - k := by rw [List.length_drop, hn]
      have hcount := rowCount_eq (hn ▸ hpos) hk
      rw [rows_of_ne_nil hx hk, ih (n - k) (by omega) (xs.drop k) hdrop, hcount,
        List.range_succ_eq_map, List.map_cons, List.map_map]
      simp [Function.comp_def, Nat.mul_succ, Nat.add_comm]

/-! ### Full rows -/

theorem rows_of_dvd {α : Type} {k : Nat} (hk : 0 < k) {xs : List α} (hfull : k ∣ xs.length) :
    rows k xs = (List.range (xs.length / k)).map fun r => (xs.drop (k * r)).take k := by
  obtain ⟨n, hn⟩ := hfull
  have hlast : (k - 1) / k = 0 := Nat.div_eq_of_lt (Nat.sub_lt hk Nat.one_pos)
  rw [rows_eq_map hk, hn, Nat.mul_add_div hk, hlast, Nat.add_zero, Nat.mul_div_cancel_left n hk]

/-- If the items fill the last row, every row is full. -/
theorem length_of_mem_rows {α : Type} {k : Nat} (hk : 0 < k) {xs row : List α}
    (hfull : k ∣ xs.length) (hrow : row ∈ rows k xs) : row.length = k := by
  rw [rows_of_dvd hk hfull, List.mem_map] at hrow
  obtain ⟨r, hr, rfl⟩ := hrow
  have hroom : (r + 1) * k ≤ xs.length := (Nat.le_div_iff_mul_le hk).1 (List.mem_range.1 hr)
  rw [Nat.succ_mul, Nat.mul_comm r k] at hroom
  rw [List.length_take, List.length_drop]
  omega

end Chip8.Text
