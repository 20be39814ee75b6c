/-!
# Numbers as text

Every number the machine shows is written in one of three ways: in lowercase hexadecimal with a
least number of digits, in uppercase hexadecimal (register and key names), or in decimal, which may
be set to the right of a column.

## What is here

* `hex w n` — the lowercase hexadecimal digits of `n`, with zeros in front up to `w` digits.
* `hexUpper n` — the uppercase hexadecimal digits of `n`, without leading zeros.
* `decimal n` — the decimal digits of `n`.
* `padLeft`, `padRight` — a text set to the right or to the left of a column of spaces.
* `hexByte?`, `hexBytes?` — the way back for bytes: two digits to a byte.
-/

set_option autoImplicit false

namespace Chip8.Text

/-! ## Columns -/

/-- `s` at the right end of a column `width` characters wide; a longer text is kept whole. -/
def padLeft (width : Nat) (s : String) : String :=
  String.ofList (s.toList.leftpad width ' ')

/-- `s` at the left end of a column `width` characters wide; a longer text is kept whole. -/
def padRight (width : Nat) (s : String) : String :=
  String.ofList (s.toList.rightpad width ' ')

@[simp] theorem toList_padLeft (width : Nat) (s : String) :
    (padLeft width s).toList = s.toList.leftpad width ' ' := by
  simp [padLeft]

@[simp] theorem toList_padRight (width : Nat) (s : String) :
    (padRight width s).toList = s.toList.rightpad width ' ' := by
  simp [padRight]

/-! ## Digits -/

/-- The decimal digits of `n`. -/
def decimal (n : Nat) : String :=
  String.ofList (Nat.toDigits 10 n)

/-- The lowercase hexadecimal digits of `n`, with zeros in front until there are `width`. -/
def hex (width n : Nat) : String :=
  String.ofList ((Nat.toDigits 16 n).leftpad width '0')

/-- The uppercase hexadecimal digits of `n`, without leading zeros. -/
def hexUpper (n : Nat) : String :=
  String.ofList ((Nat.toDigits 16 n).map Char.toUpper)

@[simp] theorem toList_decimal (n : Nat) : (decimal n).toList = Nat.toDigits 10 n := by
  simp [decimal]

@[simp] theorem toList_hex (width n : Nat) :
    (hex width n).toList = (Nat.toDigits 16 n).leftpad width '0' := by
  simp [hex]

@[simp] theorem toList_hexUpper (n : Nat) :
    (hexUpper n).toList = (Nat.toDigits 16 n).map Char.toUpper := by
  simp [hexUpper]

/-! ## Bytes as pairs of digits -/

/-- The value of a hexadecimal digit of either case. -/
def hexDigit? (c : Char) : Option Nat :=
  if '0' ≤ c ∧ c ≤ '9' then some (c.toNat - 48)
  else if 'a' ≤ c ∧ c ≤ 'f' then some (c.toNat - 87)
  else if 'A' ≤ c ∧ c ≤ 'F' then some (c.toNat - 55)
  else none

/-- The byte written by two hexadecimal digits, high half first. -/
def hexByte? (hi lo : Char) : Option UInt8 := do
  let h ← hexDigit? hi
  let l ← hexDigit? lo
  pure (UInt8.ofNat (16 * h + l))

/-- Reads a text of digit pairs as bytes; an odd digit or another character is refused. -/
def hexBytes? : List Char → Option (List UInt8)
  | [] => some []
  | [_] => none
  | hi :: lo :: rest => do
    let byte ← hexByte? hi lo
    let bytes ← hexBytes? rest
    pure (byte :: bytes)

/-- Bytes as digit pairs without a space between them. -/
def hexBytes (bytes : List UInt8) : String :=
  String.join (bytes.map fun b => hex 2 b.toNat)

end Chip8.Text
