import Chip8.Proofs.Text.OneLine

/-!
# Reading numbers back

A number that is written in hexadecimal can be read back from its digits, whatever the case of the
letters and however many zeros stand in front.  So texts that show the same digits show the same
number, also where they were written to different widths.

## What is here

* `hexValue` — the number that a row of hexadecimal digits stands for.
* `hexValue_hex`, `hexValue_hexUpper` — reading what was written.
* `exists_digit_of_mem_hex`, `exists_digit_of_mem_hexUpper` — the characters of a number;
  there is no comma among them.
* `hexBytes?_hexBytes` — the same of bytes, of which each is written with two digits.
-/

set_option autoImplicit false

namespace Chip8.Text

variable {c : Char} {d n width : Nat}

/-- The number that a row of hexadecimal digits stands for, the highest digit first; any other
character counts as 0. -/
def hexValue (cs : List Char) : Nat := cs.foldl (fun v c => 16 * v + (hexDigit? c).getD 0) 0

/-! ## Digits -/

theorem hexDigit?_digitChar (h : d < 16) : hexDigit? d.digitChar = some d := by
  revert d
  decide

theorem hexDigit?_toUpper (h : d < 16) : hexDigit? d.digitChar.toUpper = some d := by
  revert d
  decide

theorem hexValue_concat (cs : List Char) (c : Char) :
    hexValue (cs ++ [c]) = 16 * hexValue cs + (hexDigit? c).getD 0 := by
  rw [hexValue, List.foldl_append, List.foldl_cons, List.foldl_nil, hexValue]

/-! ## Numbers -/

/-- Digits of either case are read as the number they were made from. -/
theorem hexValue_map_toDigits {f : Char → Char}
    (hf : ∀ d < 16, hexDigit? (f d.digitChar) = some d) (n : Nat) :
    hexValue ((Nat.toDigits 16 n).map f) = n := by
  induction n using Nat.strongRecOn with
  | ind n ih =>
    rw [Nat.toDigits_eq_if (by decide)]
    split
    · rename_i hn
      rw [List.map_singleton, ← List.nil_append [_], hexValue_concat, hf n hn]
      exact Nat.zero_add n
    · rw [List.map_append, List.map_singleton, hexValue_concat, ih (n / 16) (by omega),
        hf (n % 16) (Nat.mod_lt n (by decide)), Option.getD_some]
      exact Nat.div_add_mod n 16

theorem hexValue_replicate_append (k : Nat) (cs : List Char) :
    hexValue (List.replicate k '0' ++ cs) = hexValue cs := by
  induction k with
  | zero => rfl
  | succ k ih => exact ih

/-- **A number is read as it was written**, however many zeros stand in front. -/
@[simp] theorem hexValue_hex (width n : Nat) : hexValue (hex width n).toList = n := by
  rw [toList_hex, List.leftpad, hexValue_replicate_append]
  simpa only [List.map_id] using hexValue_map_toDigits (f := id) (fun d => hexDigit?_digitChar) n

@[simp] theorem hexValue_hexUpper (n : Nat) : hexValue (hexUpper n).toList = n := by
  rw [toList_hexUpper]
  exact hexValue_map_toDigits (fun d => hexDigit?_toUpper) n

/-! ## Their characters -/

/-- Every character of a number is a digit. -/
theorem exists_digit_of_mem_hex (h : c ∈ (hex width n).toList) : ∃ d < 16, c = d.digitChar := by
  rw [toList_hex, List.leftpad, List.mem_append, List.mem_replicate] at h
  rcases h with ⟨-, rfl⟩ | h
  · exact ⟨0, by decide, rfl⟩
  · exact exists_digit_of_mem_toDigits (by decide) h

theorem exists_digit_of_mem_hexUpper (h : c ∈ (hexUpper n).toList) :
    ∃ d < 16, c = d.digitChar.toUpper := by
  rw [toList_hexUpper, List.mem_map] at h
  obtain ⟨c, hc, rfl⟩ := h
  obtain ⟨d, hd, rfl⟩ := exists_digit_of_mem_toDigits (by decide) hc
  exact ⟨d, hd, rfl⟩

theorem notMem_hex (hc : hexDigit? c = none) (width n : Nat) : c ∉ (hex width n).toList := by
  intro h
  obtain ⟨d, hd, rfl⟩ := exists_digit_of_mem_hex h
  rw [hexDigit?_digitChar hd] at hc
  exact absurd hc (by simp)

theorem comma_notMem_hex (width n : Nat) : ',' ∉ (hex width n).toList :=
  notMem_hex (by decide) width n

theorem comma_notMem_hexUpper (n : Nat) : ',' ∉ (hexUpper n).toList := by
  intro h
  obtain ⟨d, hd, hcomma⟩ := exists_digit_of_mem_hexUpper h
  have hdigits : ∀ d < 16, ',' ≠ d.digitChar.toUpper := by decide
  exact hdigits d hd hcomma

theorem toList_hex_ne_nil (width n : Nat) : (hex width n).toList ≠ [] := by
  rw [toList_hex, List.leftpad]
  exact List.append_ne_nil_of_right_ne_nil _ Nat.toDigits_ne_nil

/-! ## Bytes as digits -/

theorem toList_hex_two (b : UInt8) :
    (hex 2 b.toNat).toList = [(b.toNat / 16).digitChar, (b.toNat % 16).digitChar] := by
  have hb := b.toNat_lt
  rw [toList_hex, Nat.toDigits_eq_if (by decide)]
  split
  · rename_i hlt
    rw [Nat.div_eq_of_lt hlt, Nat.mod_eq_of_lt hlt]
    rfl
  · rw [Nat.toDigits_eq_if (by decide), if_pos (by omega)]
    rfl

theorem toList_hexBytes (bs : List UInt8) :
    (hexBytes bs).toList = bs.flatMap fun b => (hex 2 b.toNat).toList := by
  rw [hexBytes, String.toList_join, List.flatMap_map]

theorem hexByte?_digitChar (b : UInt8) :
    hexByte? (b.toNat / 16).digitChar (b.toNat % 16).digitChar = some b := by
  have hb := b.toNat_lt
  rw [hexByte?, hexDigit?_digitChar (by omega), hexDigit?_digitChar (by omega)]
  show some (UInt8.ofNat (16 * (b.toNat / 16) + b.toNat % 16)) = some b
  rw [Nat.div_add_mod, UInt8.ofNat_toNat]

/-- **Bytes are read as they were written.** -/
theorem hexBytes?_hexBytes (bs : List UInt8) : hexBytes? (hexBytes bs).toList = some bs := by
  induction bs with
  | nil => rfl
  | cons b bs ih =>
    rw [toList_hexBytes] at ih
    rw [toList_hexBytes, List.flatMap_cons, toList_hex_two, List.cons_append, List.cons_append,
      List.nil_append, hexBytes?, hexByte?_digitChar, ih]
    rfl

theorem blank_notMem_hexBytes (bs : List UInt8) : ' ' ∉ (hexBytes bs).toList := by
  rw [toList_hexBytes, List.mem_flatMap]
  rintro ⟨b, -, hblank⟩
  exact notMem_hex (by decide) 2 b.toNat hblank

end Chip8.Text
