import Chip8.CommandLine.Lister
import Chip8.Text.Numeral

/-!
# Command lines that are understood

A number that is written in decimal is read as the same number, as long as it is below the bound,
and a word that does not begin with a dash stands for itself.

## What is here

* `count_decimal` — reading a number that was written in decimal.
* `Argument.ofString_of_head` — words that stand for themselves.
* `Interface.readFrom_flag`, `readFrom_value`, `readFrom_free` — reading on
  behind an option or a word.
* `Lister.read_plain_offset` — the settings of a plain listing from an offset on.
-/

set_option autoImplicit false

namespace Chip8.CommandLine

open Text

/-! ## Numbers -/

theorem decimalDigit?_of_isDigit {c : Char} (h : c.isDigit = true) :
    decimalDigit? c = some (c.toNat - '0'.toNat) := by
  rw [decimalDigit?, if_pos h]

/-- A number grows with every digit, so the last one tells whether it is below the bound. -/
theorem le_ofDigitChars (n : Nat) (cs : List Char) : n ≤ Nat.ofDigitChars 10 cs n := by
  rw [Nat.ofDigitChars_eq_ofDigitChars_zero]
  have hpow : 1 * n ≤ 10 ^ cs.length * n := Nat.mul_le_mul_right n (Nat.one_le_pow _ 10 (by decide))
  omega

theorem countFrom_eq_ofDigitChars {bound n : Nat} {cs : List Char}
    (hcs : ∀ c ∈ cs, c.isDigit = true) (h : Nat.ofDigitChars 10 cs n < bound) :
    countFrom bound n cs = .ok (Nat.ofDigitChars 10 cs n) := by
  induction cs generalizing n with
  | nil => rfl
  | cons c cs ih =>
    obtain ⟨hc, hrest⟩ := List.forall_mem_cons.1 hcs
    rw [Nat.ofDigitChars_cons] at h ⊢
    have hlt := Nat.lt_of_le_of_lt (le_ofDigitChars _ cs) h
    rw [countFrom, decimalDigit?_of_isDigit hc]
    dsimp only
    rw [if_pos hlt, ih hrest h]

/-- **A number is read as it was written.** -/
theorem count_decimal {bound n : Nat} (h : n < bound) : count bound (decimal n) = .ok n := by
  have hdigits : ∀ c ∈ Nat.toDigits 10 n, c.isDigit = true := fun c hc =>
    Nat.isDigit_of_mem_toDigits (by decide) (by decide) hc
  have hvalue : Nat.ofDigitChars 10 (Nat.toDigits 10 n) 0 = n := Nat.ofDigitChars_ten_toDigits
  rw [count, toList_decimal]
  split
  · rename_i hnil
    exact absurd hnil Nat.toDigits_ne_nil
  · rename_i hplus
    have hsign := hdigits '+' (by rw [hplus]; exact List.mem_cons_self)
    exact absurd hsign (by decide)
  · rw [countFrom_eq_ofDigitChars hdigits (by rw [hvalue]; exact h), hvalue]

/-! ## Words -/

theorem Argument.ofString_of_head {s : String} (h : s.toList.head? ≠ some '-') :
    Argument.ofString s = .free s := by
  unfold Argument.ofString
  split
  · rename_i hs
    exact absurd (congrArg List.head? hs) h
  · rename_i hs
    exact absurd (congrArg List.head? hs) h
  · rename_i hs
    exact absurd (congrArg List.head? hs) h
  · rfl

section Steps

variable {σ : Type} {i : Interface σ} {s s' : σ} {word name value long : String}
  {short : Option Char} {rest : List String}

theorem Interface.readFrom_flag {set : σ → σ} (hword : Argument.ofString word = .long name)
    (hchoice : i.choices.find? (fun choice => choice.long == name) =
      some ⟨long, short, .flag set⟩) :
    i.readFrom [] (word :: rest) s = i.readFrom [] rest (set s) := by
  rw [readFrom, hword]
  dsimp only
  rw [hchoice]

theorem Interface.readFrom_value {set : String → σ → Except String σ}
    (hword : Argument.ofString word = .long name)
    (hchoice : i.choices.find? (fun choice => choice.long == name) = some ⟨long, short, .value set⟩)
    (hset : set value s = .ok s') :
    i.readFrom [] (word :: value :: rest) s = i.readFrom [] rest s' := by
  rw [readFrom, hword]
  simp only [hchoice, giveValue, hset]

theorem Interface.readFrom_free (hword : Argument.ofString word = .free word)
    (hfree : i.free word s = some s') :
    i.readFrom [] (word :: rest) s = i.readFrom [] rest s' := by
  rw [readFrom, hword]
  dsimp only
  rw [takeFree, hfree]

theorem Interface.readFrom_nil : i.readFrom [] [] s = .ok s := by
  rw [readFrom]

end Steps

namespace Lister

/-- **The settings of a plain listing** of a file from byte `o` on. -/
theorem read_plain_offset {o : Nat} (ho : o < UInt64.size) {name : String}
    (hname : name.toList.head? ≠ some '-') :
    interface.read ["--plain", "--offset", decimal o, name] {} =
      .ok { file := some name, offset := o, plain := true } := by
  have hplain : Argument.ofString "--plain" = .long "plain" := by decide
  have hoffset : Argument.ofString "--offset" = .long "offset" := by decide
  have hset : (do pure { ({ plain := true } : Settings) with
      offset := ← count UInt64.size (decimal o) } : Except String Settings) =
        .ok { offset := o, plain := true } := by
    rw [count_decimal ho]
    rfl
  rw [Interface.read, Interface.readFrom_flag hplain rfl, Interface.readFrom_value hoffset rfl hset,
    Interface.readFrom_free (Argument.ofString_of_head hname) rfl, Interface.readFrom_nil]

end Lister

end Chip8.CommandLine
