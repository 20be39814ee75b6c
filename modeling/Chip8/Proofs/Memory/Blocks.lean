import Chip8.Memory.Basic

/-!
# Bytes and blocks

Reading and writing either fail or not, depending on nothing but the size of memory.  Here every
operation is given by what it does where it succeeds and by where it fails, in terms of
`Memory.byteAt`, which gives a byte for every address.

## What is here

* `Memory.byteAt`, `Memory.block` — the byte at an address, and the bytes of a range; `block_blit`,
  that these are what was written there, and `getElem?_blit_block`, what writing them elsewhere
  makes.
* `eq_ok_iff_of_room`, `eq_error_iff_of_room` — an operation that fails iff there is no room.
* `read_of_lt`, `range_of_le`, `overwrite_of_le` — the operations where there is room, and
  `read_of_le`, `range_of_lt`, `overwrite_of_lt`, where there is not.
* `size_perform` — no edit changes the number of bytes; `memory_of_failed`, that one
  that fails changes nothing.
-/

set_option autoImplicit false

namespace Chip8

namespace Memory

variable {m : Memory} {a len : Nat}

/-- The byte at an address, and 0 where there is none. -/
def byteAt (m : Memory) (a : Nat) : UInt8 := m.bytes[a]?.getD 0

/-- The `len` bytes from `a` on. -/
def block (m : Memory) (a len : Nat) : List UInt8 :=
  (List.range len).map fun k => m.byteAt (a + k)

@[simp] theorem length_block : (m.block a len).length = len := by
  rw [block, List.length_map, List.length_range]

theorem getElem_block {k : Nat} (h : k < (m.block a len).length) :
    (m.block a len)[k] = m.byteAt (a + k) := by
  simp only [block, List.getElem_map, List.getElem_range]

theorem getElem?_block (m : Memory) (a len k : Nat) :
    (m.block a len)[k]? = if k < len then some (m.byteAt (a + k)) else none := by
  by_cases hk : k < len
  · rw [if_pos hk, List.getElem?_eq_getElem (by rw [length_block]; exact hk), getElem_block]
  · rw [if_neg hk, List.getElem?_eq_none (by rw [length_block]; omega)]

theorem take_drop_block {j n : Nat} (h : j + n ≤ len) :
    ((m.block a len).drop j).take n = m.block (a + j) n := by
  refine List.ext_getElem? fun k => ?_
  rw [List.getElem?_take, List.getElem?_drop, getElem?_block, getElem?_block, Nat.add_assoc]
  by_cases hk : k < n
  · rw [if_pos hk, if_pos (by omega), if_pos hk]
  · rw [if_neg hk, if_neg hk]

/-- What was written to a range is the block there. -/
theorem block_blit {bytes : Array UInt8} {bs : List UInt8} (h : a + bs.length ≤ bytes.size) :
    (Memory.mk (blit bytes a bs)).block a bs.length = bs := by
  refine List.ext_getElem (length_block) fun k hk hin => ?_
  rw [getElem_block, byteAt, getElem?_blit, if_pos (by omega), Nat.add_sub_cancel_left,
    List.getElem?_eq_getElem hin, Option.getD_some]

theorem getElem?_of_lt (h : a < m.size) : m.bytes[a]? = some (m.byteAt a) := by
  rw [byteAt, Array.getElem?_eq_getElem (show a < m.bytes.size from h), Option.getD_some]

/-- Writing a block to the place it comes from makes that place the same. -/
theorem getElem?_blit_block {n : Memory} {k : Nat} (hm : a + len ≤ m.size) (hn : a + len ≤ n.size)
    (hlo : a ≤ k) (hhi : k < a + len) :
    (blit n.bytes a (m.block a len))[k]? = m.bytes[k]? := by
  have hkn : k < n.bytes.size := Nat.lt_of_lt_of_le hhi hn
  rw [getElem?_blit, length_block, if_pos ⟨hlo, hhi, hkn⟩, getElem?_block, if_pos (by omega),
    show a + (k - a) = k by omega, getElem?_of_lt (Nat.lt_of_lt_of_le hhi hm)]

/-! ## Room or a fault -/

section Room

variable {α : Type} {r : Except Fault α} {v : α} {f : Fault} {stop : Nat}

/-- An operation that succeeds where there is room, and fails where there is not, gives a value iff
there is room and the value is that one. -/
theorem eq_ok_iff_of_room (hle : stop ≤ m.size → r = .ok v) (hlt : m.size < stop → r = .error f)
    {w : α} : r = .ok w ↔ stop ≤ m.size ∧ v = w := by
  rcases Nat.lt_or_ge m.size stop with hout | hin
  · rw [hlt hout]
    exact ⟨nofun, fun h => absurd h.1 (Nat.not_le_of_lt hout)⟩
  · rw [hle hin, Except.ok.injEq, and_iff_right hin]

/-- It fails iff there is no room, and with its own fault. -/
theorem eq_error_iff_of_room (hle : stop ≤ m.size → r = .ok v) (hlt : m.size < stop → r = .error f)
    {g : Fault} : r = .error g ↔ m.size < stop ∧ f = g := by
  rcases Nat.lt_or_ge m.size stop with hout | hin
  · rw [hlt hout, Except.error.injEq, and_iff_right hout]
  · rw [hle hin]
    exact ⟨nofun, fun h => absurd h.1 (Nat.not_lt_of_le hin)⟩

end Room

/-! ## Reading -/

theorem read_of_lt (h : a < m.size) : m.read a = .ok (m.byteAt a) := by
  rw [read, getElem?_of_lt h]

theorem read_of_le (h : m.size ≤ a) : m.read a = .error (.outOfBounds a) := by
  rw [read, Array.getElem?_eq_none h]

theorem lt_size_of_read {b : UInt8} (h : m.read a = .ok b) : a < m.size := by
  rw [read_eq_ok_iff, Array.getElem?_eq_some_iff] at h
  exact h.1

theorem range_of_le (h : a + len ≤ m.size) : m.range a len = .ok (m.block a len) := by
  rw [range, if_pos h]
  refine congrArg _ (List.ext_getElem? fun k => ?_)
  rw [Array.getElem?_toList, Array.getElem?_extract, block, List.getElem?_map]
  by_cases hk : k < len
  · rw [if_pos (by rw [size] at h; omega), List.getElem?_range hk, Option.map_some,
      getElem?_of_lt (by omega)]
  · rw [if_neg (by rw [size] at h; omega), List.getElem?_eq_none (by rw [List.length_range]; omega),
      Option.map_none]

theorem range_of_lt (h : m.size < a + len) : m.range a len = .error (rangeFault a) := by
  rw [range, if_neg (by omega)]

/-- A range can be read iff it lies within memory. -/
theorem range_eq_ok_iff {bs : List UInt8} :
    m.range a len = .ok bs ↔ a + len ≤ m.size ∧ m.block a len = bs :=
  eq_ok_iff_of_room range_of_le range_of_lt

/-! ## Writing -/

theorem overwrite_of_le {bs : List UInt8} (h : a + bs.length ≤ m.size) :
    m.overwrite a bs = { memory := ⟨blit m.bytes a bs⟩ } := by
  rw [overwrite, if_pos h]

theorem overwrite_of_lt {bs : List UInt8} (h : m.size < a + bs.length) :
    m.overwrite a bs = ⟨m, .error (rangeFault a)⟩ := by
  rw [overwrite, if_neg (by omega)]

section Guarded

variable {t : Memory} {p : Prop} [Decidable p] {f : Fault}

/-- What writes only where there is room keeps the number of bytes if the writing does. -/
theorem size_of_guarded (ht : t.size = m.size) :
    (if p then { memory := t } else ⟨m, .error f⟩ : Written).memory.size = m.size := by
  split
  · exact ht
  · rfl

/-- What writes only where there is room changes nothing if it fails. -/
theorem memory_of_guarded {g : Fault}
    (h : (if p then { memory := t } else ⟨m, .error f⟩ : Written).result = .error g) :
    (if p then { memory := t } else ⟨m, .error f⟩ : Written).memory = m := by
  split at h
  · cases h
  · next hp => rw [if_neg hp]

end Guarded

theorem size_overwrite (m : Memory) (a : Nat) (bs : List UInt8) :
    (m.overwrite a bs).memory.size = m.size := size_of_guarded (size_blit _ _ _)

theorem size_loadProgram (m : Memory) (program : List UInt8) :
    (m.loadProgram program).memory.size = m.size := size_of_guarded (size_blit _ _ _)

/-- **No edit changes the number of bytes.** -/
theorem size_perform (m : Memory) (e : Edit) : (m.perform e).memory.size = m.size := by
  cases e with
  | write a b => exact size_of_guarded Array.size_setIfInBounds
  | overwrite a bs => exact size_overwrite m a bs
  | loadFont => exact size_loadFont m
  | loadProgram program => exact size_loadProgram m program
  | clearProgram => exact size_clearProgram m

/-- **An edit that fails changes nothing**: each looks whether there is room before it writes. -/
theorem memory_of_failed {e : Edit} {f : Fault} (h : (m.perform e).result = .error f) :
    (m.perform e).memory = m := by
  cases e with
  | write | overwrite | loadProgram => exact memory_of_guarded h
  | loadFont | clearProgram => cases h

end Memory

end Chip8
