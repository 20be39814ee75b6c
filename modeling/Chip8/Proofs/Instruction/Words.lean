import Chip8.Instruction.Decode

/-!
# What reading a word tells about it

Reading a word gives an instruction whose operands fit into a word, and writing that instruction
gives the word back; so the digits of a word can be recovered from what it stands for.

## What is here

* `Word.toNat_x`, `Word.toNat_address` and so on — the parts of a word as numbers.
* `Word.IsInstruction` — the patterns of the words that are instructions, one line for each kind.
* `Instruction.fits_of_decode?`, `Instruction.encode_of_decode?` — an instruction that was read
  fits, and is written as the word it was read from.
* `Instruction.decode?_encode` — an instruction that fits is read from the word that is written for
  it.
* `Instruction.decode?_eq_none_iff` — a word stands for nothing iff no pattern matches it.
-/

set_option autoImplicit false

namespace Chip8

/-! ## Parts of a word as numbers -/

namespace Word

theorem toNat_x (w : UInt16) : (x w).toNat = w.toNat / 0x100 % 0x10 := by
  rw [x, UInt64.toNat_ofNat', Nat.mod_eq_of_lt (by omega)]

theorem toNat_y (w : UInt16) : (y w).toNat = w.toNat / 0x10 % 0x10 := by
  rw [y, UInt64.toNat_ofNat', Nat.mod_eq_of_lt (by omega)]

theorem toNat_address (w : UInt16) : (address w).toNat = w.toNat % 0x1000 := by
  rw [address, UInt16.toNat_ofNat', Nat.mod_eq_of_lt (by omega)]

theorem x_lt (w : UInt16) : (x w).toNat < 0x10 := by
  rw [toNat_x]
  omega

theorem y_lt (w : UInt16) : (y w).toNat < 0x10 := by
  rw [toNat_y]
  omega

theorem address_lt (w : UInt16) : (address w).toNat < 0x1000 := by
  rw [toNat_address]
  omega

theorem low_lt (w : UInt16) : low w < 0x10 := Nat.mod_lt _ (by decide)

theorem byte_lt (w : UInt16) : byte w < 0x100 := Nat.mod_lt _ (by decide)

theorem kind_lt (w : UInt16) : kind w < 0x10 := by
  have := w.toNat_lt
  rw [kind]
  omega

theorem toNat_ofNat_low (w : UInt16) : (UInt8.ofNat (low w)).toNat = low w := by
  have := low_lt w
  rw [UInt8.toNat_ofNat', Nat.mod_eq_of_lt (by omega)]

theorem toNat_ofNat_byte (w : UInt16) : (UInt8.ofNat (byte w)).toNat = byte w := by
  rw [UInt8.toNat_ofNat', Nat.mod_eq_of_lt (byte_lt w)]

theorem toNat_ofBytes (hi lo : UInt8) : (ofBytes hi lo).toNat = 0x100 * hi.toNat + lo.toNat := by
  have := hi.toNat_lt
  have := lo.toNat_lt
  rw [ofBytes, UInt16.toNat_ofNat', Nat.mod_eq_of_lt (by omega)]

/-- The word has the form of an instruction: two words of kind 0, four kinds that fix their last
digit or digits, and ten kinds that leave all operands free. -/
def IsInstruction (w : UInt16) : Prop :=
  match kind w with
  | 0x0 => w = 0x00e0 ∨ w = 0x00ee
  | 0x5 => low w = 0x0
  | 0x8 => low w ∈ [0x0, 0x1, 0x2, 0x3, 0x4, 0x5, 0x6, 0x7, 0xe]
  | 0x9 => low w = 0x0
  | 0xe => byte w ∈ [0x9e, 0xa1]
  | 0xf => byte w ∈ [0x07, 0x0a, 0x15, 0x18, 0x1e, 0x29, 0x33, 0x55, 0x65]
  | _ => True

end Word

/-! ## Families -/

theorem SystemOp.code_of_ofCode? {n : Nat} {op : SystemOp} (h : ofCode? n = some op) :
    op.code = n := by
  unfold ofCode? at h
  split at h <;> cases h <;> rfl

theorem AluOp.code_of_ofCode? {n : Nat} {op : AluOp} (h : ofCode? n = some op) : op.code = n := by
  unfold ofCode? at h
  split at h <;> cases h <;> rfl

theorem KeyOp.code_of_ofCode? {n : Nat} {op : KeyOp} (h : ofCode? n = some op) : op.code = n := by
  unfold ofCode? at h
  split at h <;> cases h <;> rfl

theorem MiscOp.code_of_ofCode? {n : Nat} {op : MiscOp} (h : ofCode? n = some op) :
    op.code = n := by
  unfold ofCode? at h
  split at h <;> cases h <;> rfl

theorem SystemOp.ofCode?_eq_none_iff (w : UInt16) :
    ofCode? w.toNat = none ↔ ¬ (w = 0x00e0 ∨ w = 0x00ee) := by
  rw [← UInt16.toNat_inj, ← UInt16.toNat_inj]
  unfold ofCode?
  split <;> simp_all

theorem AluOp.ofCode?_eq_none_iff (n : Nat) :
    ofCode? n = none ↔ n ∉ [0x0, 0x1, 0x2, 0x3, 0x4, 0x5, 0x6, 0x7, 0xe] := by
  unfold ofCode?
  split <;> simp_all

theorem KeyOp.ofCode?_eq_none_iff (n : Nat) : ofCode? n = none ↔ n ∉ [0x9e, 0xa1] := by
  unfold ofCode?
  split <;> simp_all

theorem MiscOp.ofCode?_eq_none_iff (n : Nat) :
    ofCode? n = none ↔ n ∉ [0x07, 0x0a, 0x15, 0x18, 0x1e, 0x29, 0x33, 0x55, 0x65] := by
  unfold ofCode?
  split <;> simp_all

theorem AluOp.code_lt (op : AluOp) : op.code < 0x10 := by cases op <;> decide

theorem KeyOp.code_lt (op : KeyOp) : op.code < 0x100 := by cases op <;> decide

theorem MiscOp.code_lt (op : MiscOp) : op.code < 0x100 := by cases op <;> decide

namespace Instruction

/-! ## Writing the parts of a word back -/

theorem wordOfAddress_address {w : UInt16} {k : Nat} (hk : Word.kind w = k) :
    wordOfAddress k (Word.address w) = w := by
  rw [Word.kind] at hk
  rw [← UInt16.toNat_inj, wordOfAddress, UInt16.toNat_ofNat', Word.toNat_address]
  have := w.toNat_lt
  omega

theorem wordOfByte_byte {w : UInt16} {k : Nat} (hk : Word.kind w = k) :
    wordOfByte k (Word.x w) (Word.byte w) = w := by
  rw [Word.kind] at hk
  rw [← UInt16.toNat_inj, wordOfByte, UInt16.toNat_ofNat', Word.toNat_x, Word.byte]
  have := w.toNat_lt
  omega

theorem wordOfDigit_low {w : UInt16} {k : Nat} (hk : Word.kind w = k) :
    wordOfDigit k (Word.x w) (Word.y w) (Word.low w) = w := by
  rw [Word.kind] at hk
  rw [← UInt16.toNat_inj, wordOfDigit, UInt16.toNat_ofNat', Word.toNat_x, Word.toNat_y, Word.low]
  have := w.toNat_lt
  omega

/-! ## Parts of a word that was written -/

theorem toNat_wordOfAddress {k : Nat} {a : UInt16} (hk : k < 0x10) (ha : a.toNat < 0x1000) :
    (wordOfAddress k a).toNat = 0x1000 * k + a.toNat := by
  rw [wordOfAddress, UInt16.toNat_ofNat', Nat.mod_eq_of_lt (by omega)]

theorem toNat_wordOfByte {k : Nat} {x : UInt64} {b : Nat} (hk : k < 0x10) (hx : x.toNat < 0x10)
    (hb : b < 0x100) : (wordOfByte k x b).toNat = 0x1000 * k + 0x100 * x.toNat + b := by
  rw [wordOfByte, UInt16.toNat_ofNat', Nat.mod_eq_of_lt (by omega)]

theorem toNat_wordOfDigit {k : Nat} {x y : UInt64} {n : Nat} (hk : k < 0x10)
    (hx : x.toNat < 0x10) (hy : y.toNat < 0x10) (hn : n < 0x10) :
    (wordOfDigit k x y n).toNat = 0x1000 * k + 0x100 * x.toNat + 0x10 * y.toNat + n := by
  rw [wordOfDigit, UInt16.toNat_ofNat', Nat.mod_eq_of_lt (by omega)]

theorem kind_wordOfAddress {k : Nat} {a : UInt16} (hk : k < 0x10) (ha : a.toNat < 0x1000) :
    Word.kind (wordOfAddress k a) = k := by
  rw [Word.kind, toNat_wordOfAddress hk ha]
  omega

theorem address_wordOfAddress {k : Nat} {a : UInt16} (hk : k < 0x10) (ha : a.toNat < 0x1000) :
    Word.address (wordOfAddress k a) = a := by
  rw [← UInt16.toNat_inj, Word.toNat_address, toNat_wordOfAddress hk ha]
  omega

theorem kind_wordOfByte {k : Nat} {x : UInt64} {b : Nat} (hk : k < 0x10) (hx : x.toNat < 0x10)
    (hb : b < 0x100) : Word.kind (wordOfByte k x b) = k := by
  rw [Word.kind, toNat_wordOfByte hk hx hb]
  omega

theorem x_wordOfByte {k : Nat} {x : UInt64} {b : Nat} (hk : k < 0x10) (hx : x.toNat < 0x10)
    (hb : b < 0x100) : Word.x (wordOfByte k x b) = x := by
  rw [← UInt64.toNat_inj, Word.toNat_x, toNat_wordOfByte hk hx hb]
  omega

theorem byte_wordOfByte {k : Nat} {x : UInt64} {b : Nat} (hk : k < 0x10) (hx : x.toNat < 0x10)
    (hb : b < 0x100) : Word.byte (wordOfByte k x b) = b := by
  rw [Word.byte, toNat_wordOfByte hk hx hb]
  omega

theorem kind_wordOfDigit {k : Nat} {x y : UInt64} {n : Nat} (hk : k < 0x10) (hx : x.toNat < 0x10)
    (hy : y.toNat < 0x10) (hn : n < 0x10) : Word.kind (wordOfDigit k x y n) = k := by
  rw [Word.kind, toNat_wordOfDigit hk hx hy hn]
  omega

theorem x_wordOfDigit {k : Nat} {x y : UInt64} {n : Nat} (hk : k < 0x10) (hx : x.toNat < 0x10)
    (hy : y.toNat < 0x10) (hn : n < 0x10) : Word.x (wordOfDigit k x y n) = x := by
  rw [← UInt64.toNat_inj, Word.toNat_x, toNat_wordOfDigit hk hx hy hn]
  omega

theorem y_wordOfDigit {k : Nat} {x y : UInt64} {n : Nat} (hk : k < 0x10) (hx : x.toNat < 0x10)
    (hy : y.toNat < 0x10) (hn : n < 0x10) : Word.y (wordOfDigit k x y n) = y := by
  rw [← UInt64.toNat_inj, Word.toNat_y, toNat_wordOfDigit hk hx hy hn]
  omega

theorem low_wordOfDigit {k : Nat} {x y : UInt64} {n : Nat} (hk : k < 0x10) (hx : x.toNat < 0x10)
    (hy : y.toNat < 0x10) (hn : n < 0x10) : Word.low (wordOfDigit k x y n) = n := by
  rw [Word.low, toNat_wordOfDigit hk hx hy hn]
  omega

/-! ## Reading -/

/-- An instruction that was read fits into a word, and is written as the word it was read from. -/
theorem fits_and_encode_of_decode? {w : UInt16} {i : Instruction} (h : decode? w = some i) :
    i.Fits ∧ i.encode = w := by
  have hx := Word.x_lt w
  have hy := Word.y_lt w
  have ha := Word.address_lt w
  have hb := Word.toNat_ofNat_byte w
  rw [decode?.eq_def] at h
  split at h
  · obtain ⟨op, hop, rfl⟩ := Option.map_eq_some_iff.1 h
    refine ⟨trivial, ?_⟩
    rw [encode, SystemOp.code_of_ofCode? hop, UInt16.ofNat_toNat]
  · rename_i hk; cases h; exact ⟨ha, wordOfAddress_address hk⟩
  · rename_i hk; cases h; exact ⟨ha, wordOfAddress_address hk⟩
  · rename_i hk; cases h; exact ⟨hx, by rw [encode, hb, wordOfByte_byte hk]⟩
  · rename_i hk; cases h; exact ⟨hx, by rw [encode, hb, wordOfByte_byte hk]⟩
  · rename_i hk
    split at h
    · rename_i hl; cases h; exact ⟨⟨hx, hy⟩, by rw [encode, ← hl, wordOfDigit_low hk]⟩
    · cases h
  · rename_i hk; cases h; exact ⟨hx, by rw [encode, hb, wordOfByte_byte hk]⟩
  · rename_i hk; cases h; exact ⟨hx, by rw [encode, hb, wordOfByte_byte hk]⟩
  · rename_i hk
    obtain ⟨op, hop, rfl⟩ := Option.map_eq_some_iff.1 h
    exact ⟨⟨hx, hy⟩, by rw [encode, AluOp.code_of_ofCode? hop, wordOfDigit_low hk]⟩
  · rename_i hk
    split at h
    · rename_i hl; cases h; exact ⟨⟨hx, hy⟩, by rw [encode, ← hl, wordOfDigit_low hk]⟩
    · cases h
  · rename_i hk; cases h; exact ⟨ha, wordOfAddress_address hk⟩
  · rename_i hk; cases h; exact ⟨ha, wordOfAddress_address hk⟩
  · rename_i hk; cases h; exact ⟨hx, by rw [encode, hb, wordOfByte_byte hk]⟩
  · rename_i hk
    cases h
    have hl := Word.toNat_ofNat_low w
    exact ⟨⟨hx, hy, by rw [hl]; exact Word.low_lt w⟩, by rw [encode, hl, wordOfDigit_low hk]⟩
  · rename_i hk
    obtain ⟨op, hop, rfl⟩ := Option.map_eq_some_iff.1 h
    exact ⟨hx, by rw [encode, KeyOp.code_of_ofCode? hop, wordOfByte_byte hk]⟩
  · rename_i hk
    obtain ⟨op, hop, rfl⟩ := Option.map_eq_some_iff.1 h
    exact ⟨hx, by rw [encode, MiscOp.code_of_ofCode? hop, wordOfByte_byte hk]⟩
  · cases h

theorem fits_of_decode? {w : UInt16} {i : Instruction} (h : decode? w = some i) : i.Fits :=
  (fits_and_encode_of_decode? h).1

theorem encode_of_decode? {w : UInt16} {i : Instruction} (h : decode? w = some i) :
    i.encode = w :=
  (fits_and_encode_of_decode? h).2

theorem kind_of_decode?_call {w a : UInt16} (h : decode? w = some (.call a)) :
    Word.kind w = 0x2 := by
  rw [← encode_of_decode? h, encode, kind_wordOfAddress (by decide) (fits_of_decode? h)]

theorem parts_of_decode?_draw {w : UInt16} {x y : UInt64} {n : UInt8}
    (h : decode? w = some (.draw x y n)) : Word.kind w = 0xd ∧ Word.low w = n.toNat := by
  obtain ⟨hx, hy, hn⟩ := fits_of_decode? h
  rw [← encode_of_decode? h, encode]
  exact ⟨kind_wordOfDigit (by decide) hx hy hn, low_wordOfDigit (by decide) hx hy hn⟩

theorem parts_of_decode?_key {w : UInt16} {op : KeyOp} {x : UInt64}
    (h : decode? w = some (.key op x)) : Word.kind w = 0xe ∧ Word.byte w = op.code := by
  have hx := fits_of_decode? h
  have hc := KeyOp.code_lt op
  rw [← encode_of_decode? h, encode]
  exact ⟨kind_wordOfByte (by decide) hx hc, byte_wordOfByte (by decide) hx hc⟩

theorem parts_of_decode?_misc {w : UInt16} {op : MiscOp} {x : UInt64}
    (h : decode? w = some (.misc op x)) :
    Word.kind w = 0xf ∧ Word.byte w = op.code ∧ Word.x w = x := by
  have hx := fits_of_decode? h
  have hc := MiscOp.code_lt op
  rw [← encode_of_decode? h, encode]
  exact ⟨kind_wordOfByte (by decide) hx hc, byte_wordOfByte (by decide) hx hc,
    x_wordOfByte (by decide) hx hc⟩

theorem decode?_of_kind_call {w : UInt16} (hk : Word.kind w = 0x2) :
    decode? w = some (.call (Word.address w)) := by
  rw [decode?.eq_def]
  simp only [hk]

theorem decode?_of_kind_draw {w : UInt16} (hk : Word.kind w = 0xd) :
    decode? w = some (.draw (Word.x w) (Word.y w) (.ofNat (Word.low w))) := by
  rw [decode?.eq_def]
  simp only [hk]

theorem decode?_of_kind_alu {w : UInt16} (op : AluOp) (hk : Word.kind w = 0x8)
    (hn : Word.low w = op.code) : decode? w = some (.alu op (Word.x w) (Word.y w)) := by
  rw [decode?.eq_def]
  simp only [hk, hn, AluOp.ofCode?_code, Option.map_some]

theorem decode?_of_kind_misc {w : UInt16} (op : MiscOp) (hk : Word.kind w = 0xf)
    (hb : Word.byte w = op.code) : decode? w = some (.misc op (Word.x w)) := by
  rw [decode?.eq_def]
  simp only [hk, hb, MiscOp.ofCode?_code, Option.map_some]

/-- A register number of one digit as an operand. -/
theorem toNat_register (x : Fin 16) : (UInt64.ofNat x).toNat = x :=
  UInt64.toNat_ofNat_of_lt' (Nat.lt_trans x.isLt (by decide))

/-- **An instruction that fits is read from the word that is written for it.** -/
theorem decode?_encode {i : Instruction} (h : i.Fits) : decode? i.encode = some i := by
  cases i with
  | system op => cases op <;> rfl
  | jump a | call a | setIndex a | jumpOffset a =>
    have ha : a.toNat < 0x1000 := h
    rw [encode, decode?.eq_def]
    simp (disch := first | assumption | decide) only [kind_wordOfAddress, address_wordOfAddress]
  | skipEqByte x b | skipNeByte x b | setByte x b | addByte x b | random x b =>
    have hx : x.toNat < 0x10 := h
    have hb : b.toNat < 0x100 := b.toNat_lt
    rw [encode, decode?.eq_def]
    simp (disch := first | assumption | decide) only [kind_wordOfByte, x_wordOfByte,
      byte_wordOfByte, UInt8.ofNat_toNat]
  | skipEq x y | skipNe x y =>
    obtain ⟨hx, hy⟩ := h
    rw [encode, decode?.eq_def]
    simp (disch := first | assumption | decide) only [kind_wordOfDigit, x_wordOfDigit,
      y_wordOfDigit, low_wordOfDigit, if_pos]
  | alu op x y =>
    obtain ⟨hx, hy⟩ := h
    have hop := AluOp.code_lt op
    rw [encode, decode?_of_kind_alu op (kind_wordOfDigit (by decide) hx hy hop)
        (low_wordOfDigit (by decide) hx hy hop),
      x_wordOfDigit (by decide) hx hy hop, y_wordOfDigit (by decide) hx hy hop]
  | draw x y n =>
    obtain ⟨hx, hy, hn⟩ := h
    rw [encode, decode?_of_kind_draw (kind_wordOfDigit (by decide) hx hy hn),
      x_wordOfDigit (by decide) hx hy hn, y_wordOfDigit (by decide) hx hy hn,
      low_wordOfDigit (by decide) hx hy hn, UInt8.ofNat_toNat]
  | key op x =>
    have hx : x.toNat < 0x10 := h
    have hop := KeyOp.code_lt op
    rw [encode, decode?.eq_def]
    simp (disch := first | assumption | decide) only [kind_wordOfByte, x_wordOfByte,
      byte_wordOfByte, KeyOp.ofCode?_code, Option.map_some]
  | misc op x =>
    have hop := MiscOp.code_lt op
    rw [encode, decode?_of_kind_misc op (kind_wordOfByte (by decide) h hop)
        (byte_wordOfByte (by decide) h hop), x_wordOfByte (by decide) h hop]

/-- **A word stands for nothing iff it has the form of no instruction.** -/
theorem decode?_eq_none_iff (w : UInt16) : decode? w = none ↔ ¬ Word.IsInstruction w := by
  have hlt := Word.kind_lt w
  rw [decode?.eq_def, Word.IsInstruction.eq_def]
  split
  case h_17 => exfalso; grind
  all_goals
    rename_i hk
    simp only [hk, Option.map_eq_none_iff, SystemOp.ofCode?_eq_none_iff,
      AluOp.ofCode?_eq_none_iff, KeyOp.ofCode?_eq_none_iff, MiscOp.ofCode?_eq_none_iff,
      ite_eq_right_iff, reduceCtorEq, imp_false, not_true]

end Instruction

end Chip8
