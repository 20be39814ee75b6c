/-!
# JSON values

The values that a stored state is made of.  An object is a list of labelled values; a number is
kept as an integer where it was written as one, for a stored count must not be a fraction.

## What is here

* `Json` — the values.
* `Json.ofNat` — a natural number as a value.
* `Json.nat?`, `Json.bool?`, `Json.list?`, `Json.field?` — what a value is, if it is of the kind
  asked for; a number must be below a bound.
-/

set_option autoImplicit false

namespace Chip8

/-- A JSON value. -/
inductive Json where
  /-- Nothing. -/
  | null
  /-- A truth value. -/
  | bool (b : Bool)
  /-- A number written without fraction and exponent. -/
  | integer (n : Int)
  /-- Any other number: `mantissa` divided by ten to the power `places`. -/
  | fraction (mantissa : Int) (places : Nat)
  /-- A text. -/
  | text (s : String)
  /-- A list. -/
  | list (items : List Json)
  /-- Labelled values. -/
  | object (fields : List (String × Json))
  deriving Repr, Inhabited

namespace Json

/-- A natural number as a value. -/
def ofNat (n : Nat) : Json := .integer n

/-- The natural number that a value is, if it is one below `bound`. -/
def nat? (bound : Nat) : Json → Option Nat
  | .integer (.ofNat n) => if n < bound then some n else none
  | _ => none

/-- The truth value that a value is. -/
def bool? : Json → Option Bool
  | .bool b => some b
  | _ => none

/-- The list that a value is, if every item can be read by `item`. -/
def list? {α : Type} (item : Json → Option α) : Json → Option (List α)
  | .list items => items.mapM item
  | _ => none

/-- The value under a label among some fields: the first one, should there be several. -/
def fieldOf? (label : String) : List (String × Json) → Option Json
  | [] => none
  | f :: rest => if f.1 = label then some f.2 else fieldOf? label rest

/-- The value under a label of an object. -/
def field? (label : String) : Json → Option Json
  | .object fields => fieldOf? label fields
  | _ => none

/-! ## Words of fixed width -/

/-- The byte that a value is. -/
def byte? (v : Json) : Option UInt8 := (v.nat? UInt8.size).map .ofNat

/-- The word of 16 bits that a value is. -/
def word16? (v : Json) : Option UInt16 := (v.nat? UInt16.size).map .ofNat

/-- The word of 64 bits that a value is. -/
def word64? (v : Json) : Option UInt64 := (v.nat? UInt64.size).map .ofNat

theorem nat?_ofNat {bound n : Nat} (h : n < bound) : nat? bound (ofNat n) = some n := by
  simp [nat?, ofNat, h]

@[simp] theorem byte?_ofNat (b : UInt8) : byte? (ofNat b.toNat) = some b := by
  simp [byte?, nat?_ofNat b.toNat_lt_size]

@[simp] theorem word16?_ofNat (w : UInt16) : word16? (ofNat w.toNat) = some w := by
  simp [word16?, nat?_ofNat w.toNat_lt_size]

@[simp] theorem word64?_ofNat (w : UInt64) : word64? (ofNat w.toNat) = some w := by
  simp [word64?, nat?_ofNat w.toNat_lt_size]

@[simp] theorem bool?_bool (b : Bool) : bool? (.bool b) = some b := rfl

end Json

end Chip8
