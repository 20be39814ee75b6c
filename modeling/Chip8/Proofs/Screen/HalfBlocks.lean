import Chip8.Screen.HalfBlocks
import Chip8.Proofs.Machine.Bounded
import Chip8.Proofs.Text.Lines

/-!
# Reading the screen off its text

A character of the text shows a pixel in its upper half and the pixel below it in its lower half.
A line is made from two rows of pixels, so its upper halves are the first row and its lower halves
the second.  As long as the pixels fill whole pairs of rows, nothing is lost: the pixels can be
read off the text line by line.

## What is here

* `upperLit`, `lowerLit` — what a character shows, and `pixelsOf`, what a text shows.
* `map_upperLit_blockLine`, `map_lowerLit_blockLine` — the halves of a line.
* `text_eq_unlines`, `pixelsOf_text` — the text line by line, and read back.
* `text_faithful` — what each character of the text shows, and that the text tells the screen.
-/

set_option autoImplicit false

namespace Chip8.Screen

open Text

variable {s : Screen} {pair : List Bool}

/-! ## What characters show -/

/-- Whether the upper half of a character is lit. -/
def upperLit (c : Char) : Bool := c = '█' || c = '▀'

/-- Whether the lower half of a character is lit. -/
def lowerLit (c : Char) : Bool := c = '█' || c = '▄'

/-- The pixels that a text shows: of every line the upper halves, then the lower halves. -/
def pixelsOf (t : String) : List Bool :=
  (linesOf t).flatMap fun line => line.map upperLit ++ line.map lowerLit

@[simp] theorem upperLit_blockChar (upper lower : Bool) :
    upperLit (blockChar upper lower) = upper := by
  cases upper <;> cases lower <;> rfl

@[simp] theorem lowerLit_blockChar (upper lower : Bool) :
    lowerLit (blockChar upper lower) = lower := by
  cases upper <;> cases lower <;> rfl

theorem blockChar_mem (upper lower : Bool) : blockChar upper lower ∈ ['█', '▀', '▄', ' '] := by
  cases upper <;> cases lower <;> decide

/-- A block is known from its halves. -/
theorem eq_blockChar_of_mem {c : Char} (h : c ∈ ['█', '▀', '▄', ' ']) :
    c = blockChar (upperLit c) (lowerLit c) := by
  simp only [List.mem_cons, List.not_mem_nil, or_false] at h
  rcases h with rfl | rfl | rfl | rfl <;> rfl

/-! ## What lines show -/

theorem length_blockLine (h : pair.length = 2 * width) : (blockLine pair).length = width := by
  rw [blockLine, List.length_zipWith, List.length_take, List.length_drop]
  omega

/-- The characters of a line, each made from a pixel of the first row and the one below it. -/
theorem getElem?_blockLine (h : pair.length = 2 * width) {c : Nat} (hc : c < width) :
    ∃ upper lower, pair[c]? = some upper ∧ pair[width + c]? = some lower ∧
      (blockLine pair)[c]? = some (blockChar upper lower) := by
  have hupper := List.getElem?_eq_getElem (show c < pair.length by omega)
  have hlower := List.getElem?_eq_getElem (show width + c < pair.length by omega)
  refine ⟨_, _, hupper, hlower, ?_⟩
  rw [blockLine, List.getElem?_zipWith, List.getElem?_take_of_lt hc, List.getElem?_drop, hupper,
    hlower]

theorem length_take_eq_length_drop (h : pair.length = 2 * width) :
    (pair.take width).length = (pair.drop width).length := by
  rw [List.length_take, List.length_drop]
  omega

theorem map_upperLit_blockLine (h : pair.length = 2 * width) :
    (blockLine pair).map upperLit = pair.take width := by
  rw [blockLine, List.map_zipWith]
  simp only [upperLit_blockChar]
  have hle := Nat.le_of_eq (length_take_eq_length_drop h)
  exact List.map_zip_eq_zipWith.symm.trans (List.map_fst_zip hle)

theorem map_lowerLit_blockLine (h : pair.length = 2 * width) :
    (blockLine pair).map lowerLit = pair.drop width := by
  rw [blockLine, List.map_zipWith]
  simp only [lowerLit_blockChar]
  have hge := Nat.le_of_eq (length_take_eq_length_drop h).symm
  exact List.map_zip_eq_zipWith.symm.trans (List.map_snd_zip hge)

theorem exists_of_mem_blockLine {c : Char} (h : c ∈ blockLine pair) :
    ∃ upper lower, c = blockChar upper lower := by
  rw [blockLine, ← List.map_uncurry_zip_eq_zipWith, List.mem_map] at h
  obtain ⟨⟨upper, lower⟩, -, rfl⟩ := h
  exact ⟨upper, lower, rfl⟩

theorem oneLine_blockLine (pair : List Bool) : OneLine (String.ofList (blockLine pair)) := by
  rw [OneLine, String.toList_ofList]
  intro hbreak
  obtain ⟨upper, lower, heq⟩ := exists_of_mem_blockLine hbreak
  exact absurd (heq ▸ blockChar_mem upper lower) (by decide)

/-! ## What texts show -/

/-- The lines of a screen. -/
def lines (s : Screen) : List String :=
  (rows (2 * width) s.pixels.toList).map fun pair => String.ofList (blockLine pair)

theorem text_eq_unlines (s : Screen) : s.text = unlines s.lines := by
  rw [← String.toList_inj, toList_unlines, lines, List.flatMap_map, text, String.toList_ofList]
  simp only [String.toList_ofList]

/-- **The pixels are read off the text**, if they fill whole pairs of rows. -/
theorem pixelsOf_text (h : 128 ∣ s.pixels.size) : pixelsOf s.text = s.pixels.toList := by
  have hline : ∀ pair ∈ rows (2 * width) s.pixels.toList,
      (blockLine pair).map upperLit ++ (blockLine pair).map lowerLit = pair := by
    intro pair hpair
    have hlength := length_of_mem_rows (by decide) h hpair
    rw [map_upperLit_blockLine hlength, map_lowerLit_blockLine hlength, List.take_append_drop]
  have hlines : ∀ line ∈ s.lines, OneLine line :=
    List.forall_mem_map.2 fun _ _ => oneLine_blockLine _
  calc pixelsOf s.text
    _ = ((rows (2 * width) s.pixels.toList).map fun pair =>
          (blockLine pair).map upperLit ++ (blockLine pair).map lowerLit).flatten := by
      rw [pixelsOf, text_eq_unlines, linesOf_unlines hlines, lines, List.flatMap_def, List.map_map,
        List.map_map]
      simp [Function.comp_def]
    _ = (rows (2 * width) s.pixels.toList).flatten := by
      rw [List.map_congr_left hline, List.map_id']
    _ = s.pixels.toList := flatten_rows (by decide) _

/-- The lines by number, each made from its own pair of rows. -/
theorem lines_eq (h : 128 ∣ s.pixels.size) :
    s.lines = (List.range (s.pixels.size / 128)).map fun r =>
      String.ofList (blockLine ((s.pixels.toList.drop (128 * r)).take 128)) := by
  show (rows 128 s.pixels.toList).map _ = _
  rw [rows_of_dvd (by decide) h, List.map_map]
  rfl

theorem exists_pair_of_line (h : 128 ∣ s.pixels.size) {r : Nat} (hr : r < s.lines.length) :
    ∃ pair, pair.length = 2 * width ∧ (∀ k < 2 * width, pair[k]? = s.pixels[128 * r + k]?) ∧
      s.lines[r] = String.ofList (blockLine pair) := by
  have hcount : r < s.pixels.size / 128 := by
    rwa [lines_eq h, List.length_map, List.length_range] at hr
  have hroom : (r + 1) * 128 ≤ s.pixels.size := (Nat.le_div_iff_mul_le (by decide)).1 hcount
  refine ⟨(s.pixels.toList.drop (128 * r)).take 128, ?_, fun k hk => ?_, ?_⟩
  · rw [List.length_take, List.length_drop, Array.length_toList]
    simp only [width]
    omega
  · rw [List.getElem?_take_of_lt (show k < 128 from hk), List.getElem?_drop, Array.getElem?_toList]
  · simp only [lines_eq h, List.getElem_map, List.getElem_range]

/-- **The text of a screen is faithful.**  Every screen that is reached has a number of pixels
that is a multiple of 128.  For every such screen the text has a line of 64 characters for each
128 pixels; each of them is a full block, a half block or a blank, and in line `r` and column `c`
its upper half is lit iff the pixel in that column of row `2 * r` is, and its lower half iff the
one in row `2 * r + 1` is.  So the pixels can be read off the text, and two such screens with the
same text are the same. -/
theorem text_faithful :
    (∀ c : Console, c.Reached → 128 ∣ c.machine.screen.pixels.size) ∧
    ∀ s : Screen, 128 ∣ s.pixels.size →
      (∃ lines : List String, s.text = unlines lines ∧ lines.length = s.pixels.size / 128 ∧
        ∀ r, (hr : r < lines.length) → lines[r].length = 64 ∧
          ∀ c < 64, ∃ char ∈ ['█', '▀', '▄', ' '], lines[r].toList[c]? = some char ∧
            s.pixels[64 * (2 * r) + c]? = some (upperLit char) ∧
            s.pixels[64 * (2 * r + 1) + c]? = some (lowerLit char)) ∧
      pixelsOf s.text = s.pixels.toList ∧
      ∀ t : Screen, 128 ∣ t.pixels.size → (s.text = t.text ↔ s = t) := by
  refine ⟨fun c hc => ?_, fun s h => ⟨⟨s.lines, text_eq_unlines s, ?_, fun r hr => ?_⟩,
    pixelsOf_text h, fun t ht => ⟨fun heq => ?_, congrArg _⟩⟩⟩
  · rw [hc.bounded.screen_size]
    decide
  · rw [lines_eq h, List.length_map, List.length_range]
  · obtain ⟨pair, hlength, hpixels, hline⟩ := exists_pair_of_line h hr
    rw [hline, String.toList_ofList]
    refine ⟨?_, fun c hc => ?_⟩
    · rw [String.length_ofList]
      exact length_blockLine hlength
    · obtain ⟨upper, lower, hupper, hlower, hchar⟩ := getElem?_blockLine hlength hc
      refine ⟨_, blockChar_mem upper lower, hchar, ?_, ?_⟩
      · rw [upperLit_blockChar, ← hupper, hpixels c (by simp only [width]; omega)]
        congr 1
        omega
      · rw [lowerLit_blockChar, ← hlower, hpixels (width + c) (by simp only [width]; omega)]
        congr 1
        simp only [width]
        omega
  · have hpixels := congrArg pixelsOf heq
    rw [pixelsOf_text h, pixelsOf_text ht, Array.toList_inj] at hpixels
    exact congrArg Screen.mk hpixels

/-- A stored screen of two rows whose only lit pixel is in the second one is shown on one line, with
a lower half block in the column of the pixel and a blank beside it. -/
theorem text_faithful_of_dot :
    let s : Screen := ⟨((List.range 128).map (· == 67)).toArray⟩
    ∃ line, s.text = unlines [line] ∧ line.length = 64 ∧ line.toList[3]? = some '▄' ∧
      line.toList[4]? = some ' ' := by
  intro s
  have hsize : s.pixels.size = 128 := by simp [s]
  have hpixel : ∀ k < 128, s.pixels[k]? = some (k == 67) := fun k hk => by
    simp [s, List.getElem?_range hk]
  obtain ⟨⟨lines, htext, hlength, hlines⟩, -, -⟩ := text_faithful.2 s (hsize ▸ Nat.dvd_refl 128)
  rw [hsize] at hlength
  obtain ⟨line, rfl⟩ := List.length_eq_one_iff.1 hlength
  obtain ⟨hline, hchars⟩ := hlines 0 Nat.one_pos
  have hchar : ∀ c < 64, line.toList[c]? = some (blockChar (c == 67) (64 + c == 67)) := by
    intro c hc
    obtain ⟨char, hmem, hchar, hupper, hlower⟩ := hchars c hc
    rw [hpixel _ (by omega), Nat.zero_add, Option.some_inj] at hupper
    rw [hpixel _ (by omega), Option.some_inj] at hlower
    rw [eq_blockChar_of_mem hmem, ← hupper, ← hlower] at hchar
    exact hchar
  exact ⟨line, htext, hline, hchar 3 (by decide), hchar 4 (by decide)⟩

end Chip8.Screen
