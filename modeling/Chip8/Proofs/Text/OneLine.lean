import Chip8.Instruction.Assembly

/-!
# Texts of one line

Texts that are printed one below the other can be told apart only if none of them holds a line
break.  Digits do not, and columns and lists of texts have no more of them than what they are made
of; so the assembly text of a word stands on one line, whatever the word.

## What is here

* `OneLine` — a text without line breaks, and `oneLine_append`, `oneLine_padRight`,
  `oneLine_intercalate`, how such texts are put together.
* `oneLine_hex`, `oneLine_hexUpper` — digits.
* `oneLine_text`, `oneLine_once` — instructions and words.
-/

set_option autoImplicit false

namespace Chip8

namespace Text

variable {s t : String} {b n : Nat} {c : Char}

/-- The text has no line break. -/
def OneLine (s : String) : Prop := '\n' ∉ s.toList

instance : Decidable (OneLine s) := inferInstanceAs (Decidable ('\n' ∉ s.toList))

/-! ## Putting texts together -/

@[simp] theorem oneLine_append : OneLine (s ++ t) ↔ OneLine s ∧ OneLine t := by
  rw [OneLine, String.toList_append, List.mem_append, not_or, OneLine, OneLine]

@[simp] theorem oneLine_padRight (width : Nat) : OneLine (padRight width s) ↔ OneLine s := by
  have hblank : '\n' ∉ List.replicate (width - s.toList.length) ' ' := by
    rw [List.mem_replicate]
    exact fun h => absurd h.2 (by decide)
  rw [OneLine, toList_padRight, List.rightpad, List.mem_append, not_or, OneLine]
  exact and_iff_left hblank

theorem oneLine_intercalate {texts : List String} (hs : OneLine s) (h : ∀ t ∈ texts, OneLine t) :
    OneLine (s.intercalate texts) := by
  induction texts with
  | nil =>
    rw [String.intercalate_nil]
    decide
  | cons t rest ih =>
    obtain ⟨ht, hrest⟩ := List.forall_mem_cons.1 h
    cases rest with
    | nil => rwa [String.intercalate_singleton]
    | cons u rest =>
      rw [String.intercalate_cons_cons, oneLine_append, oneLine_append]
      exact ⟨⟨ht, hs⟩, ih hrest⟩

/-! ## Digits -/

theorem exists_digit_of_mem_toDigits (hb : 1 < b) (h : c ∈ Nat.toDigits b n) :
    ∃ d < b, c = d.digitChar := by
  induction n using Nat.strongRecOn with
  | ind n ih =>
    rw [Nat.toDigits_eq_if hb] at h
    split at h
    · rename_i hn
      exact ⟨n, hn, List.mem_singleton.1 h⟩
    · rename_i hn
      rcases List.mem_append.1 h with h | h
      · exact ih (n / b) (Nat.div_lt_self (by omega) hb) h
      · exact ⟨n % b, Nat.mod_lt n (by omega), List.mem_singleton.1 h⟩

@[simp] theorem oneLine_hex (width n : Nat) : OneLine (hex width n) := by
  rw [OneLine, toList_hex, List.leftpad, List.mem_append, not_or]
  constructor
  · rw [List.mem_replicate]
    exact fun h => absurd h.2 (by decide)
  · intro h
    obtain ⟨d, -, hd⟩ := exists_digit_of_mem_toDigits (by decide) h
    exact Nat.digitChar_ne '\n' (by decide) hd.symm

@[simp] theorem oneLine_hexUpper (n : Nat) : OneLine (hexUpper n) := by
  rw [OneLine, toList_hexUpper, List.mem_map]
  rintro ⟨c, hc, hupper⟩
  obtain ⟨d, hd, rfl⟩ := exists_digit_of_mem_toDigits (by decide) hc
  have hdigits : ∀ d < 16, (Nat.digitChar d).toUpper ≠ '\n' := by decide
  exact hdigits d hd hupper

end Text

open Text

/-! ## Assembly text -/

theorem oneLine_assembly {mnemonic : String} {operands : List String} (h : OneLine mnemonic)
    (hs : ∀ s ∈ operands, OneLine s) : OneLine (assembly mnemonic operands) := by
  rw [assembly, oneLine_append, oneLine_padRight]
  exact ⟨h, oneLine_intercalate (by decide) hs⟩

@[simp] theorem oneLine_registerText (x : UInt64) : OneLine (registerText x) := by
  rw [registerText, oneLine_append]
  exact ⟨by decide, oneLine_hexUpper _⟩

@[simp] theorem oneLine_byteText (b : UInt8) : OneLine (byteText b) := by
  rw [byteText, oneLine_append]
  exact ⟨by decide, oneLine_hex _ _⟩

@[simp] theorem oneLine_addressText (a : UInt16) : OneLine (addressText a) := oneLine_hex _ _

theorem oneLine_mnemonic (op : AluOp) : OneLine op.mnemonic := by
  cases op <;> decide

theorem oneLine_misc (op : MiscOp) (x : UInt64) : OneLine (op.text x) := by
  cases op <;> exact oneLine_assembly (by decide) (by simp +decide)

theorem oneLine_text (i : Instruction) : OneLine i.text := by
  cases i with
  | misc op x => exact oneLine_misc op x
  | alu op x y => exact oneLine_assembly (oneLine_mnemonic op) (by simp)
  | system op | key op => cases op <;> exact oneLine_assembly (by decide) (by simp)
  | jump | call | skipEqByte | skipNeByte | skipEq | setByte | addByte | skipNe | setIndex
  | jumpOffset | random | draw => exact oneLine_assembly (by decide) (by simp +decide)

/-- **The plain listing of a word stands on one line.** -/
theorem oneLine_once (w : UInt16) : OneLine (Disassembly.plain.once w) := by
  rw [Disassembly.once]
  cases Instruction.decode? w with
  | some i => exact oneLine_text i
  | none => exact oneLine_assembly (by decide) (by simp)

end Chip8
