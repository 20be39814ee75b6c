import Mathlib.Data.List.Forall2
import Chip8.Proofs.Instruction.Words
import Chip8.Text.Numeral

/-!
# Words and instructions correspond one to one

The words of an instruction set are usually given by patterns such as `3xbb`: figures and capital
letters are digits that all words of the form share, and small letters stand for the digits of an
operand, the highest one first.  A word is the word of an instruction if it matches the
pattern of the instruction and has the digits of its operands in their places.  Reading and
writing of words are the two ways through this one relation: every instruction whose operands
fit has exactly one word, every word has at most one instruction, and the words without one
are those that match no pattern.

## What is here

* `Word.digits`, `Word.Matches`, `Word.field` — the digits of a word, the patterns it matches, and
  the number that stands in the places of a letter.
* `Instruction.pattern`, `Instruction.letters` — the pattern of an instruction and its operands.
* `Instruction.wordOfAddress_eq_iff`, `Instruction.wordOfByte_eq_iff`,
  `Instruction.wordOfDigit_eq_iff` — a word is known from its kind and its operands.
* `Instruction.IsWrittenAs`, `Instruction.isWrittenAs_iff` — the word of an instruction, and that
  there is one iff the operands fit.
* `Instruction.decode?_eq_some_iff`, `Instruction.decode?_eq_none_iff_matches` — reading a word.
* `Instruction.decode?_bijective` — the correspondence.
-/

set_option autoImplicit false

namespace Chip8

open Text

/-! ## Words and patterns -/

namespace Word

/-- The four digits of a word, the highest first. -/
def digits (w : UInt16) : List Nat :=
  [w.toNat / 0x1000, w.toNat / 0x100 % 0x10, w.toNat / 0x10 % 0x10, w.toNat % 0x10]

/-- What a pattern has at a place stands for a digit: a small letter for any digit, a figure or a
capital letter for its own value. -/
def StandsFor (c : Char) (d : Nat) : Prop := c.isLower = true ∨ hexDigit? c = some d

/-- The word has the form that the pattern describes. -/
def Matches (w : UInt16) (pattern : String) : Prop :=
  List.Forall₂ StandsFor pattern.toList (digits w)

/-- The number whose digits stand in the word where the pattern has the letter `c`. -/
def field (w : UInt16) (pattern : String) (c : Char) : Nat :=
  (pattern.toList.zip (digits w)).foldl (fun v p => if p.1 = c then 16 * v + p.2 else v) 0

end Word

/-! ## Instructions and patterns -/

/-- The pattern of an operation without operand. -/
def SystemOp.pattern : SystemOp → String
  | .clearScreen => "00E0"
  | .ret => "00EE"

/-- The pattern of an operation on two registers. -/
def AluOp.pattern : AluOp → String
  | .copy => "8xy0"
  | .or => "8xy1"
  | .and => "8xy2"
  | .xor => "8xy3"
  | .add => "8xy4"
  | .sub => "8xy5"
  | .shiftRight => "8xy6"
  | .subFrom => "8xy7"
  | .shiftLeft => "8xyE"

/-- The pattern of a skip on a key. -/
def KeyOp.pattern : KeyOp → String
  | .skipHeld => "Ex9E"
  | .skipFree => "ExA1"

/-- The pattern of a miscellaneous operation. -/
def MiscOp.pattern : MiscOp → String
  | .readDelay => "Fx07"
  | .waitKey => "Fx0A"
  | .setDelay => "Fx15"
  | .setSound => "Fx18"
  | .addIndex => "Fx1E"
  | .glyph => "Fx29"
  | .digits => "Fx33"
  | .store => "Fx55"
  | .load => "Fx65"

namespace Instruction

variable {w : UInt16} {i : Instruction}

/-- The pattern of an instruction. -/
def pattern : Instruction → String
  | .system op => op.pattern
  | .jump _ => "1aaa"
  | .call _ => "2aaa"
  | .skipEqByte _ _ => "3xbb"
  | .skipNeByte _ _ => "4xbb"
  | .skipEq _ _ => "5xy0"
  | .setByte _ _ => "6xbb"
  | .addByte _ _ => "7xbb"
  | .alu op _ _ => op.pattern
  | .skipNe _ _ => "9xy0"
  | .setIndex _ => "Aaaa"
  | .jumpOffset _ => "Baaa"
  | .random _ _ => "Cxbb"
  | .draw _ _ _ => "Dxyn"
  | .key op _ => op.pattern
  | .misc op _ => op.pattern

/-- The operands of an instruction with the letters that stand for them. -/
def letters : Instruction → List (Char × Nat)
  | .system _ => []
  | .jump a | .call a | .setIndex a | .jumpOffset a => [('a', a.toNat)]
  | .skipEqByte x b | .skipNeByte x b | .setByte x b | .addByte x b | .random x b =>
    [('x', x.toNat), ('b', b.toNat)]
  | .skipEq x y | .skipNe x y | .alu _ x y => [('x', x.toNat), ('y', y.toNat)]
  | .draw x y n => [('x', x.toNat), ('y', y.toNat), ('n', n.toNat)]
  | .key _ x | .misc _ x => [('x', x.toNat)]

/-- The word has the form of the instruction and the digits of its operands. -/
def IsWrittenAs (i : Instruction) (w : UInt16) : Prop :=
  Word.Matches w i.pattern ∧ ∀ p ∈ i.letters, Word.field w i.pattern p.1 = p.2

/-! ## Words by their parts -/

theorem wordOfAddress_eq_iff {k : Nat} (hk : k < 0x10) {a : UInt16} :
    a.toNat < 0x1000 ∧ wordOfAddress k a = w ↔ Word.kind w = k ∧ Word.address w = a := by
  constructor
  · rintro ⟨ha, rfl⟩
    exact ⟨kind_wordOfAddress hk ha, address_wordOfAddress hk ha⟩
  · rintro ⟨hkind, rfl⟩
    exact ⟨Word.address_lt w, wordOfAddress_address hkind⟩

theorem wordOfByte_eq_iff {k b : Nat} (hk : k < 0x10) (hb : b < 0x100) {x : UInt64} :
    x.toNat < 0x10 ∧ wordOfByte k x b = w ↔ Word.kind w = k ∧ Word.x w = x ∧ Word.byte w = b := by
  constructor
  · rintro ⟨hx, rfl⟩
    exact ⟨kind_wordOfByte hk hx hb, x_wordOfByte hk hx hb, byte_wordOfByte hk hx hb⟩
  · rintro ⟨hkind, rfl, rfl⟩
    exact ⟨Word.x_lt w, wordOfByte_byte hkind⟩

theorem wordOfDigit_eq_iff {k n : Nat} (hk : k < 0x10) {x y : UInt64} :
    (x.toNat < 0x10 ∧ y.toNat < 0x10 ∧ n < 0x10) ∧ wordOfDigit k x y n = w ↔
      Word.kind w = k ∧ Word.x w = x ∧ Word.y w = y ∧ Word.low w = n := by
  constructor
  · rintro ⟨⟨hx, hy, hn⟩, rfl⟩
    exact ⟨kind_wordOfDigit hk hx hy hn, x_wordOfDigit hk hx hy hn, y_wordOfDigit hk hx hy hn,
      low_wordOfDigit hk hx hy hn⟩
  · rintro ⟨hkind, rfl, rfl, rfl⟩
    exact ⟨⟨Word.x_lt w, Word.y_lt w, Word.low_lt w⟩, wordOfDigit_low hkind⟩

/-- The same for a last digit that does not depend on an operand. -/
theorem wordOfDigit_eq_iff_of_lt {k n : Nat} (hk : k < 0x10) (hn : n < 0x10) {x y : UInt64} :
    (x.toNat < 0x10 ∧ y.toNat < 0x10) ∧ wordOfDigit k x y n = w ↔
      Word.kind w = k ∧ Word.x w = x ∧ Word.y w = y ∧ Word.low w = n := by
  rw [← wordOfDigit_eq_iff hk, and_iff_left hn]

/-! ## Reading and writing by patterns -/

/-- **An instruction has a word iff its operands fit**, and then it is the word
that is written for it. -/
theorem isWrittenAs_iff : i.IsWrittenAs w ↔ i.Fits ∧ i.encode = w := by
  -- the right side by the parts of the word, then both sides by its digits
  cases i with
  | system op =>
    have hw := w.toNat_lt
    rw [Fits, encode, true_and, ← UInt16.toNat_inj]
    cases op <;>
      simp [IsWrittenAs, pattern, SystemOp.pattern, letters, Word.Matches, Word.StandsFor,
        Word.digits, hexDigit?, SystemOp.code] <;>
      omega
  | jump a | call a | setIndex a | jumpOffset a =>
    rw [Fits, encode, wordOfAddress_eq_iff (by decide), ← UInt16.toNat_inj, Word.toNat_address]
    simp [IsWrittenAs, pattern, letters, Word.Matches, Word.StandsFor, Word.digits, Word.field,
      hexDigit?, Word.kind]
    omega
  | skipEqByte x b | skipNeByte x b | setByte x b | addByte x b | random x b =>
    rw [Fits, encode, wordOfByte_eq_iff (by decide) b.toNat_lt, ← UInt64.toNat_inj, Word.toNat_x]
    simp [IsWrittenAs, pattern, letters, Word.Matches, Word.StandsFor, Word.digits, Word.field,
      hexDigit?, Word.kind, Word.byte]
    omega
  | skipEq x y | skipNe x y =>
    rw [Fits, encode, wordOfDigit_eq_iff_of_lt (by decide) (by decide), ← UInt64.toNat_inj,
      ← UInt64.toNat_inj, Word.toNat_x, Word.toNat_y]
    simp [IsWrittenAs, pattern, letters, Word.Matches, Word.StandsFor, Word.digits, Word.field,
      hexDigit?, Word.kind, Word.low]
    tauto
  | draw x y n =>
    rw [Fits, encode, wordOfDigit_eq_iff (by decide), ← UInt64.toNat_inj, ← UInt64.toNat_inj,
      Word.toNat_x, Word.toNat_y]
    simp [IsWrittenAs, pattern, letters, Word.Matches, Word.StandsFor, Word.digits, Word.field,
      hexDigit?, Word.kind, Word.low]
    tauto
  | alu op x y =>
    rw [Fits, encode, wordOfDigit_eq_iff_of_lt (by decide) op.code_lt, ← UInt64.toNat_inj,
      ← UInt64.toNat_inj, Word.toNat_x, Word.toNat_y]
    cases op <;>
      simp [IsWrittenAs, pattern, AluOp.pattern, letters, Word.Matches, Word.StandsFor, Word.digits,
        Word.field, hexDigit?, AluOp.code, Word.kind, Word.low] <;>
      tauto
  | key op x | misc op x =>
    rw [Fits, encode, wordOfByte_eq_iff (by decide) op.code_lt, ← UInt64.toNat_inj, Word.toNat_x]
    cases op <;>
      simp [IsWrittenAs, pattern, KeyOp.pattern, MiscOp.pattern, letters, Word.Matches,
        Word.StandsFor, Word.digits, Word.field, hexDigit?, KeyOp.code, MiscOp.code, Word.kind,
        Word.byte] <;>
      omega

theorem decode?_eq_some_iff : decode? w = some i ↔ i.IsWrittenAs w := by
  rw [isWrittenAs_iff]
  exact ⟨fits_and_encode_of_decode?, fun ⟨hfits, hw⟩ => hw ▸ decode?_encode hfits⟩

theorem isInstruction_of_matches (h : Word.Matches w i.pattern) : Word.IsInstruction w := by
  rw [Word.IsInstruction.eq_def]
  cases i with
  | system op | alu op | key op | misc op =>
    cases op <;>
      simp [pattern, SystemOp.pattern, AluOp.pattern, KeyOp.pattern, MiscOp.pattern, Word.Matches,
        Word.StandsFor, Word.digits, hexDigit?] at h <;>
      simp [Word.kind, Word.low, Word.byte, ← UInt16.toNat_inj, ← h] <;>
      omega
  | _ =>
    simp [pattern, Word.Matches, Word.StandsFor, Word.digits, hexDigit?] at h
    simp [Word.kind, Word.low, ← h]

/-- **A word stands for nothing iff it matches no pattern.** -/
theorem decode?_eq_none_iff_matches :
    decode? w = none ↔ ∀ i : Instruction, ¬ Word.Matches w i.pattern := by
  constructor
  · intro hw i hmatches
    exact (decode?_eq_none_iff w).1 hw (isInstruction_of_matches hmatches)
  · intro hnone
    cases hw : decode? w with
    | none => rfl
    | some i => exact absurd (decode?_eq_some_iff.1 hw).1 (hnone i)

/-- **Words and instructions correspond one to one.**  Different words that stand for instructions
stand for different ones; the instructions that have a word are those whose operands fit; such an
instruction is written as its pattern with its operands and read back from there, and a word that
was read is written again for what it stands for; and the words that stand for nothing are those
that match no pattern. -/
theorem decode?_bijective :
    (∀ (w w' : UInt16) (i i' : Instruction),
      decode? w = some i → decode? w' = some i' → w ≠ w' → i ≠ i') ∧
    (∀ i : Instruction, (∃ w, decode? w = some i) ↔ i.Fits) ∧
    (∀ i : Instruction, i.Fits → i.IsWrittenAs i.encode ∧ decode? i.encode = some i) ∧
    (∀ (w : UInt16) (i : Instruction), decode? w = some i → i.encode = w) ∧
    ∀ w : UInt16, decode? w = none ↔ ∀ i : Instruction, ¬ Word.Matches w i.pattern := by
  refine ⟨fun w w' i i' hw hw' hne heq => hne ?_, fun i => ⟨?_, ?_⟩, fun i hfits => ?_,
    fun w i => encode_of_decode?, fun w => decode?_eq_none_iff_matches⟩
  · rw [← encode_of_decode? hw, ← encode_of_decode? hw', heq]
  · rintro ⟨w, hw⟩
    exact fits_of_decode? hw
  · intro hfits
    exact ⟨i.encode, decode?_encode hfits⟩
  · exact ⟨isWrittenAs_iff.2 ⟨hfits, rfl⟩, decode?_encode hfits⟩

/-- A sprite of five rows at the place that registers 1 and 2 name. -/
theorem decode?_bijective_of_draw :
    (draw 1 2 5).IsWrittenAs 0xd125 ∧ decode? 0xd125 = some (draw 1 2 5) ∧
      (draw 1 2 5).encode = 0xd125 := by
  obtain ⟨-, -, hwritten, hread, -⟩ := decode?_bijective
  have hword : (draw 1 2 5).encode = 0xd125 := by decide
  obtain ⟨hform, hdraw⟩ := hwritten (draw 1 2 5) (by decide)
  rw [hword] at hform hdraw
  exact ⟨hform, hdraw, hread 0xd125 (draw 1 2 5) hdraw⟩

end Instruction

end Chip8
