import Chip8.Fault

/-!
# Memory

Memory is a row of bytes.  A machine has 4096 of them: the glyphs of the sixteen hexadecimal digits
from 050 to 09f, the program from 200 to the end, and nothing in the other places.  A stored memory
may be of another length, and every operation is defined for every length; only the address that is
named when a range does not fit is counted from the usual 4096 bytes on.

## What is here

* `Memory` — the bytes, and `Memory.initial`, those at power-on.
* `Memory.Written` — what an operation leaves behind that may fail to write.
* `read`, `write` — one byte.
* `range`, `overwrite` — the bytes of a range.
* `loadFont`, `clearProgram`, `loadProgram` — the two fixed regions.
* `Memory.Edit` — the operations that change memory, and `Memory.perform`, what each does.
-/

set_option autoImplicit false

namespace Chip8

/-- A row of bytes, addressed from 0. -/
structure Memory where
  /-- The bytes in order. -/
  bytes : Array UInt8
  deriving DecidableEq

namespace Memory

/-! ## Layout -/

/-- The number of bytes of a machine's memory. -/
def capacity : Nat := 0x1000

/-- Where the glyphs begin. -/
def fontStart : Nat := 0x050

/-- Where programs begin. -/
def programStart : Nat := 0x200

/-- The number of bytes there is room for in a program. -/
def programLimit : Nat := capacity - programStart

/-- The glyphs of the digits 0 to F, five rows each, in the upper half of each byte. -/
def font : List UInt8 :=
  [0xf0, 0x90, 0x90, 0x90, 0xf0,
   0x20, 0x60, 0x20, 0x20, 0x70,
   0xf0, 0x10, 0xf0, 0x80, 0xf0,
   0xf0, 0x10, 0xf0, 0x10, 0xf0,
   0x90, 0x90, 0xf0, 0x10, 0x10,
   0xf0, 0x80, 0xf0, 0x10, 0xf0,
   0xf0, 0x80, 0xf0, 0x90, 0xf0,
   0xf0, 0x10, 0x20, 0x40, 0x40,
   0xf0, 0x90, 0xf0, 0x90, 0xf0,
   0xf0, 0x90, 0xf0, 0x10, 0xf0,
   0xf0, 0x90, 0xf0, 0x90, 0x90,
   0xe0, 0x90, 0xe0, 0x90, 0xe0,
   0xf0, 0x80, 0x80, 0x80, 0xf0,
   0xe0, 0x90, 0x90, 0x90, 0xe0,
   0xf0, 0x80, 0xf0, 0x80, 0xf0,
   0xf0, 0x80, 0xf0, 0x80, 0x80]

/-- The number of bytes. -/
def size (m : Memory) : Nat := m.bytes.size

/-- What an operation that writes leaves behind. -/
structure Written where
  /-- Memory afterwards. -/
  memory : Memory
  /-- Whether all was written, or why not. -/
  result : Except Fault Unit := .ok ()

/-! ## Bytes -/

/-- The byte at an address. -/
def read (m : Memory) (a : Nat) : Except Fault UInt8 :=
  match m.bytes[a]? with
  | some b => .ok b
  | none => .error (.outOfBounds a)

/-- Writes another byte to an address. -/
def write (m : Memory) (a : Nat) (b : UInt8) : Written :=
  if a < m.size then { memory := ⟨m.bytes.setIfInBounds a b⟩ } else ⟨m, .error (.outOfBounds a)⟩

/-! ## Ranges -/

/-- The fault of a range that begins at `a` and does not fit. -/
def rangeFault (a : Nat) : Fault := .outOfBounds (max a capacity)

/-- The `len` bytes from `a` on. -/
def range (m : Memory) (a len : Nat) : Except Fault (List UInt8) :=
  if a + len ≤ m.size then .ok (m.bytes.extract a (a + len)).toList else .error (rangeFault a)

/-- The array with `bs` written from `a` on, as far as there is room. -/
def blit (bytes : Array UInt8) (a : Nat) : List UInt8 → Array UInt8
  | [] => bytes
  | b :: bs => blit (bytes.setIfInBounds a b) (a + 1) bs

/-- Writes `bs` from `a` on. -/
def overwrite (m : Memory) (a : Nat) (bs : List UInt8) : Written :=
  if a + bs.length ≤ m.size then { memory := ⟨blit m.bytes a bs⟩ } else ⟨m, .error (rangeFault a)⟩

/-! ## Regions -/

/-- Memory with the glyphs in their place. -/
def loadFont (m : Memory) : Memory := ⟨blit m.bytes fontStart font⟩

/-- Memory with zeros from the start of programs to the end. -/
def clearProgram (m : Memory) : Memory :=
  ⟨(m.bytes.toList.take programStart ++ List.replicate (m.size - programStart) 0).toArray⟩

/-- Puts a program in its place; what the program does not cover is kept. -/
def loadProgram (m : Memory) (program : List UInt8) : Written :=
  if program.length ≤ programLimit then { memory := ⟨blit m.bytes programStart program⟩ }
  else ⟨m, .error (.programTooLarge program.length programLimit)⟩

/-- Memory at power-on: the glyphs in their place, and zeros elsewhere. -/
def initial : Memory :=
  ⟨(List.replicate fontStart 0 ++ font ++
    List.replicate (capacity - fontStart - font.length) 0).toArray⟩

/-! ## Small facts -/

@[simp] theorem size_blit (bytes : Array UInt8) (a : Nat) (bs : List UInt8) :
    (blit bytes a bs).size = bytes.size := by
  induction bs generalizing bytes a with
  | nil => rfl
  | cons b bs ih => rw [blit, ih, Array.size_setIfInBounds]

/-- What a byte is after writing a list of them: the listed one inside the range, the old one
outside. -/
theorem getElem?_blit (bytes : Array UInt8) (a : Nat) (bs : List UInt8) (k : Nat) :
    (blit bytes a bs)[k]? =
      if a ≤ k ∧ k < a + bs.length ∧ k < bytes.size then bs[k - a]? else bytes[k]? := by
  induction bs generalizing bytes a with
  | nil =>
    rw [blit, if_neg]
    simp only [List.length_nil]
    omega
  | cons b bs ih =>
    rw [blit, ih, Array.size_setIfInBounds, Array.getElem?_setIfInBounds, List.length_cons]
    rcases Nat.lt_trichotomy k a with h | h | h
    · rw [if_neg (by omega), if_neg (by omega), if_neg (by omega)]
    · subst h
      rw [if_neg (by omega), if_pos rfl]
      by_cases hk : k < bytes.size
      · rw [if_pos hk, if_pos ⟨by omega, by omega, hk⟩, Nat.sub_self, List.getElem?_cons_zero]
      · rw [if_neg hk, if_neg (by omega), Array.getElem?_eq_none (by omega)]
    · have hs : k - a = k - (a + 1) + 1 := by omega
      rw [if_neg (show ¬ a = k by omega), hs, List.getElem?_cons_succ]
      by_cases hk : k < a + (bs.length + 1) ∧ k < bytes.size
      · rw [if_pos (by omega), if_pos (by omega)]
      · rw [if_neg (by omega), if_neg (by omega)]

@[simp] theorem size_loadFont (m : Memory) : m.loadFont.size = m.size := by
  rw [loadFont, size, size_blit, size]

@[simp] theorem size_clearProgram (m : Memory) : m.clearProgram.size = m.size := by
  rw [clearProgram, size, List.size_toArray, List.length_append, List.length_take,
    List.length_replicate, Array.length_toList, size]
  omega

/-- Clearing leaves the bytes below the start of programs and makes the others zero. -/
theorem getElem?_clearProgram (m : Memory) (k : Nat) :
    m.clearProgram.bytes[k]? =
      if k < programStart then m.bytes[k]? else if k < m.size then some 0 else none := by
  rw [clearProgram, List.getElem?_toArray, List.getElem?_append, List.length_take,
    Array.length_toList, List.getElem?_take, Array.getElem?_toList, List.getElem?_replicate, size]
  by_cases h : k < programStart
  · rw [if_pos h, if_pos h]
    by_cases hk : k < m.bytes.size
    · rw [if_pos (by omega)]
    · rw [if_neg (by omega), if_neg (by omega), Array.getElem?_eq_none (by omega)]
  · rw [if_neg (show ¬ k < min programStart m.bytes.size by omega), if_neg h]
    by_cases hk : k < m.bytes.size
    · rw [if_pos (by omega), if_pos hk]
    · rw [if_neg (by omega), if_neg hk]

/-- A byte can be read where memory has one. -/
theorem read_eq_ok_iff {m : Memory} {a : Nat} {b : UInt8} :
    m.read a = .ok b ↔ m.bytes[a]? = some b := by
  rw [read]
  cases m.bytes[a]? <;> simp

theorem size_initial : initial.size = capacity := by
  rw [initial, size, List.size_toArray, List.length_append, List.length_append,
    List.length_replicate, List.length_replicate]
  rfl

/-! ## Edits -/

/-- An operation that changes memory. -/
inductive Edit where
  /-- Writes a byte. -/
  | write (a : Nat) (b : UInt8)
  /-- Writes bytes to a range. -/
  | overwrite (a : Nat) (bs : List UInt8)
  /-- Puts the glyphs in their place. -/
  | loadFont
  /-- Puts a program in its place. -/
  | loadProgram (program : List UInt8)
  /-- Puts zeros in the place of programs. -/
  | clearProgram
  deriving DecidableEq, Repr

/-- What an edit leaves behind. -/
def perform (m : Memory) : Edit → Written
  | .write a b => m.write a b
  | .overwrite a bs => m.overwrite a bs
  | .loadFont => { memory := m.loadFont }
  | .loadProgram program => m.loadProgram program
  | .clearProgram => { memory := m.clearProgram }

end Memory

end Chip8
