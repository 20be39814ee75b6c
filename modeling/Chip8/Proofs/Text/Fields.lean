import Chip8.Proofs.Text.Digits

/-!
# Numbers in the middle of a text

A number can be told from a text if what follows it cannot be taken for one more digit.  Then it
does not matter whether the number has a fixed or a least number of digits, or neither: the digits
end where the next text begins, and a number is known from its digits.

## What is here

* `Separates` — a text that ends a number.
* `hex_append_inj`, `decimal_append_inj` — a number and what follows behind the separator.
* `padLeft_decimal_inj` — a number at the right end of a column.
-/

set_option autoImplicit false

namespace Chip8.Text

variable {s s' sep t t' : String} {c : Char} {n n' width : Nat}

/-! ## Characters of a number -/

theorem notMem_decimal (hc : hexDigit? c = none) (n : Nat) : c ∉ (decimal n).toList := by
  intro h
  rw [toList_decimal] at h
  obtain ⟨d, hd, rfl⟩ := exists_digit_of_mem_toDigits (by decide) h
  rw [hexDigit?_digitChar (Nat.lt_trans hd (by decide))] at hc
  exact absurd hc (by simp)

theorem hex_inj : hex width n = hex width n' ↔ n = n' := by
  refine ⟨fun h => ?_, congrArg _⟩
  rw [← hexValue_hex width n, h, hexValue_hex]

theorem decimal_inj : decimal n = decimal n' ↔ n = n' := by
  refine ⟨fun h => ?_, congrArg _⟩
  rw [← String.toList_inj, toList_decimal, toList_decimal] at h
  rw [← Nat.ofDigitChars_ten_toDigits (n := n), h, Nat.ofDigitChars_ten_toDigits]

/-! ## Separators -/

/-- The text begins with a character that is no digit. -/
def Separates (sep : String) : Prop := ∃ c, sep.toList.head? = some c ∧ hexDigit? c = none

theorem takeWhile_append_sep (hsep : sep.toList.head? = some c) (hs : c ∉ s.toList) (t : String) :
    (s ++ (sep ++ t)).toList.takeWhile (· ≠ c) = s.toList := by
  obtain ⟨cs, hcs⟩ := List.head?_eq_some_iff.1 hsep
  rw [String.toList_append, String.toList_append, hcs, List.takeWhile_append_of_pos]
  · simp
  · exact fun d hd => decide_eq_true fun heq => hs (heq ▸ hd)

/-- Two texts without the first character of what follows them end at the same place. -/
theorem append_sep_inj (hsep : sep.toList.head? = some c) (hs : c ∉ s.toList)
    (hs' : c ∉ s'.toList) : s ++ (sep ++ t) = s' ++ (sep ++ t') ↔ s = s' ∧ t = t' := by
  refine ⟨fun h => ?_, fun ⟨hst, htt⟩ => hst ▸ htt ▸ rfl⟩
  have hst : s = s' := by
    rw [← String.toList_inj, ← takeWhile_append_sep hsep hs t, h, takeWhile_append_sep hsep hs']
  rw [hst, String.append_right_inj, String.append_right_inj] at h
  exact ⟨hst, h⟩

/-- **A number and what follows are known from the text** in which a separator stands between
them. -/
theorem hex_append_inj (hsep : Separates sep) :
    hex width n ++ (sep ++ t) = hex width n' ++ (sep ++ t') ↔ n = n' ∧ t = t' := by
  obtain ⟨c, hhead, hc⟩ := hsep
  rw [append_sep_inj hhead (notMem_hex hc width n) (notMem_hex hc width n'), hex_inj]

theorem decimal_append_inj (hsep : Separates sep) :
    decimal n ++ (sep ++ t) = decimal n' ++ (sep ++ t') ↔ n = n' ∧ t = t' := by
  obtain ⟨c, hhead, hc⟩ := hsep
  rw [append_sep_inj hhead (notMem_decimal hc n) (notMem_decimal hc n'), decimal_inj]

/-! ## Columns -/

theorem dropWhile_padLeft (h : ' ' ∉ s.toList) (width : Nat) :
    (padLeft width s).toList.dropWhile (· = ' ') = s.toList := by
  rw [toList_padLeft, List.leftpad, List.dropWhile_append_of_pos]
  · cases hs : s.toList with
    | nil => rfl
    | cons c cs =>
      rw [List.dropWhile_cons_of_neg]
      exact fun hc => h (of_decide_eq_true hc ▸ hs ▸ List.mem_cons_self)
  · exact fun c hc => decide_eq_true (List.eq_of_mem_replicate hc)

/-- A number is known from its column, whatever its size. -/
theorem padLeft_decimal_inj :
    padLeft width (decimal n) = padLeft width (decimal n') ↔ n = n' := by
  have hblank : ∀ n, ' ' ∉ (decimal n).toList := notMem_decimal (by decide)
  refine ⟨fun h => decimal_inj.1 ?_, fun h => h ▸ rfl⟩
  rw [← String.toList_inj, ← dropWhile_padLeft (hblank n) width, h, dropWhile_padLeft (hblank n')]

end Chip8.Text
