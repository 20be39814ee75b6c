import Chip8.Snapshot.Machine
import Chip8.Proofs.Memory.Blocks

/-!
# Ranges and single bytes

A range of memory can be read iff each of its bytes can, and lists them.  If one is missing, reading
the bytes one at a time stops at the first that is, and the fault names it: it is where memory ends,
or where the range begins, if that is later.

The operations on ranges fail together, but their fault is not made from where memory ends.  It
counts from the end of the usual 4096 bytes, whatever the number of bytes.  A machine starts with
4096 bytes and no edit changes their number, so there the two faults are the same.  A stored memory
may be of another length, and then the fault of a range names the first address that is missing only
if the range begins behind both ends.

## What is here

* `Memory.readEach` — the bytes of a range, read one at a time; `readEach_of_le` and
  `readEach_of_lt` say what that gives.
* `Memory.exists_first_missing` — the byte that it stops at.
* `Memory.overwrite_range`, `Memory.reads_of_overwrite` — writing back what was read, and
  reading what was written.
* `Memory.range_reads_each` — ranges against single bytes, and when the faults are the same.
* `Memory.range_fault_past_missing` — that they need not be.
-/

set_option autoImplicit false

namespace Chip8.Memory

variable {m : Memory} {a len : Nat}

/-! ## One byte at a time -/

/-- The `len` bytes from `a` on, read one at a time in order; the fault is that of the
first read that fails. -/
def readEach (m : Memory) (a len : Nat) : Except Fault (List UInt8) :=
  (List.range' a len).mapM m.read

theorem readEach_succ (m : Memory) (a len : Nat) :
    m.readEach a (len + 1) =
      (m.read a).bind fun b => (m.readEach (a + 1) len).bind fun bs => .ok (b :: bs) := by
  rw [readEach, List.range'_succ, List.mapM_cons]
  rfl

theorem block_succ (m : Memory) (a len : Nat) :
    m.block a (len + 1) = m.byteAt a :: m.block (a + 1) len := by
  refine List.ext_getElem? fun k => ?_
  rw [getElem?_block]
  cases k with
  | zero => rfl
  | succ k =>
    rw [List.getElem?_cons_succ, getElem?_block, Nat.add_right_comm]
    simp only [Nat.add_lt_add_iff_right, Nat.add_assoc]

theorem readEach_of_le (h : a + len ≤ m.size) : m.readEach a len = .ok (m.block a len) := by
  induction len generalizing a with
  | zero => rfl
  | succ len ih =>
    have hrest : m.readEach (a + 1) len = .ok (m.block (a + 1) len) := ih (by omega)
    rw [readEach_succ, read_of_lt (by omega), hrest, block_succ]
    rfl

/-- If a byte is missing, reading them one at a time names the first that is. -/
theorem readEach_of_lt (hlen : 0 < len) (h : m.size < a + len) :
    m.readEach a len = .error (.outOfBounds (max a m.size)) := by
  induction len generalizing a with
  | zero => exact absurd hlen (Nat.lt_irrefl 0)
  | succ len ih =>
    rw [readEach_succ]
    rcases Nat.lt_or_ge a m.size with hin | hout
    · rw [read_of_lt hin, ih (by omega) (by omega), show max (a + 1) m.size = max a m.size by omega]
      rfl
    · rw [read_of_le hout, show max a m.size = a by omega]
      rfl

theorem readEach_eq_ok_iff (hlen : 0 < len) {bs : List UInt8} :
    m.readEach a len = .ok bs ↔ a + len ≤ m.size ∧ m.block a len = bs :=
  eq_ok_iff_of_room readEach_of_le (readEach_of_lt hlen)

theorem readEach_eq_error_iff (hlen : 0 < len) {f : Fault} :
    m.readEach a len = .error f ↔ m.size < a + len ∧ .outOfBounds (max a m.size) = f :=
  eq_error_iff_of_room readEach_of_le (readEach_of_lt hlen)

/-- All bytes of a range are there iff each of them is. -/
theorem forall_read_iff (hlen : 0 < len) :
    (∀ k < len, ∃ b, m.read (a + k) = .ok b) ↔ a + len ≤ m.size := by
  constructor
  · intro h
    obtain ⟨b, hb⟩ := h (len - 1) (by omega)
    have hlast := lt_size_of_read hb
    omega
  · exact fun h k hk => ⟨_, read_of_lt (by omega)⟩

/-- The first byte of a range that is missing. -/
theorem exists_first_missing (h : m.size < a + len) (hlen : 0 < len) :
    ∃ k < len, a + k = max a m.size ∧ m.read (a + k) = .error (.outOfBounds (a + k)) ∧
      ∀ j < k, ∃ b, m.read (a + j) = .ok b := by
  have hk : a + (max a m.size - a) = max a m.size := by omega
  refine ⟨max a m.size - a, by omega, hk, ?_, fun j hj => ⟨_, read_of_lt (by omega)⟩⟩
  rw [hk]
  exact read_of_le (Nat.le_max_right a m.size)

/-! ## Ranges -/

theorem range_eq_error_iff {f : Fault} :
    m.range a len = .error f ↔ m.size < a + len ∧ rangeFault a = f :=
  eq_error_iff_of_room range_of_le range_of_lt

section Overwriting

variable {bs : List UInt8}

theorem result_overwrite_of_le (h : a + bs.length ≤ m.size) :
    (m.overwrite a bs).result = .ok () := by
  rw [overwrite_of_le h]

theorem result_overwrite_of_lt (h : m.size < a + bs.length) :
    (m.overwrite a bs).result = .error (rangeFault a) := by
  rw [overwrite_of_lt h]

theorem result_overwrite_eq_ok_iff : (m.overwrite a bs).result = .ok () ↔ a + bs.length ≤ m.size :=
  (eq_ok_iff_of_room result_overwrite_of_le result_overwrite_of_lt).trans (and_iff_left rfl)

theorem result_overwrite_eq_error_iff {f : Fault} :
    (m.overwrite a bs).result = .error f ↔ m.size < a + bs.length ∧ rangeFault a = f :=
  eq_error_iff_of_room result_overwrite_of_le result_overwrite_of_lt

end Overwriting

/-- What was read from a range can be written back, and changes nothing. -/
theorem overwrite_range {bs : List UInt8} (h : m.range a len = .ok bs) :
    m.overwrite a bs = { memory := m } := by
  obtain ⟨hle, rfl⟩ := range_eq_ok_iff.1 h
  have hbytes : blit m.bytes a (m.block a len) = m.bytes := by
    refine Array.ext_getElem? fun k => ?_
    by_cases hk : a ≤ k ∧ k < a + len
    · exact getElem?_blit_block hle hle hk.1 hk.2
    · rw [getElem?_blit, length_block, if_neg (by omega)]
  rw [overwrite_of_le (by rw [length_block]; exact hle), hbytes]

/-- What was written to a range is read there, and all else is as it was. -/
theorem reads_of_overwrite {new : List UInt8} (h : (m.overwrite a new).result = .ok ()) :
    (m.overwrite a new).memory.readEach a new.length = .ok new ∧
      ∀ k, k < a ∨ a + new.length ≤ k → (m.overwrite a new).memory.read k = m.read k := by
  have hle : a + new.length ≤ m.size := result_overwrite_eq_ok_iff.1 h
  rw [overwrite_of_le hle]
  constructor
  · rw [readEach_of_le (by rw [size, size_blit]; exact hle), block_blit hle]
  · intro k hk
    rw [read, read, getElem?_blit, if_neg (by omega)]

/-- **Ranges are their bytes.**  A range that is not empty can be read, and written to, iff each of
its bytes can be read, and then reading it gives these bytes.  Writing them back changes nothing,
and what is written instead is read afterwards, while the bytes outside of the range stay.  If a
byte is missing, both operations fail with one fault, and memory stays as it was.

Reading the bytes one at a time fails with the fault of the first that is missing.  The fault of the
range is the same iff memory has the usual `1000` bytes, or the range begins behind its end and
behind the usual one. -/
theorem range_reads_each (m : Memory) (a : Nat) {len : Nat} (hlen : 0 < len) :
    ((∃ bs, m.readEach a len = .ok bs) ↔ ∀ k < len, ∃ b, m.read (a + k) = .ok b) ∧
    (∀ bs, m.range a len = .ok bs ↔ m.readEach a len = .ok bs) ∧
    (∀ bs, m.range a len = .ok bs → m.overwrite a bs = { memory := m }) ∧
    (∀ new : List UInt8, new.length = len →
      let w := m.overwrite a new
      (w.result = .ok () ↔ ∃ bs, m.range a len = .ok bs) ∧
      (w.result = .ok () → w.memory.readEach a len = .ok new ∧
        ∀ k, k < a ∨ a + len ≤ k → w.memory.read k = m.read k) ∧
      ∀ f, (w.result = .error f ↔ m.range a len = .error f) ∧
        (w.result = .error f → w.memory = m)) ∧
    ∀ f, m.readEach a len = .error f →
      (∃ k < len, f = .outOfBounds (a + k) ∧ m.read (a + k) = .error f ∧
        ∀ j < k, ∃ b, m.read (a + j) = .ok b) ∧
      m.range a len = .error (.outOfBounds (max a 0x1000)) ∧
      (m.range a len = .error f ↔ m.size = 0x1000 ∨ m.size ≤ a ∧ 0x1000 ≤ a) := by
  refine ⟨?_, fun bs => ?_, fun bs => overwrite_range, ?_, fun f hf => ?_⟩
  · simp only [readEach_eq_ok_iff hlen, forall_read_iff hlen, exists_and_left, exists_eq', and_true]
  · rw [range_eq_ok_iff, readEach_eq_ok_iff hlen]
  · rintro new rfl
    refine ⟨?_, reads_of_overwrite, fun f => ⟨?_, memory_of_failed (e := .overwrite a new)⟩⟩
    · simp only [result_overwrite_eq_ok_iff, range_eq_ok_iff, exists_and_left, exists_eq',
        and_true]
    · rw [result_overwrite_eq_error_iff, range_eq_error_iff]
  · obtain ⟨hlt, rfl⟩ := (readEach_eq_error_iff hlen).1 hf
    obtain ⟨k, hk, hplace, hread, hbefore⟩ := exists_first_missing hlt hlen
    refine ⟨⟨k, hk, by rw [hplace], by rw [hread, hplace], hbefore⟩, range_of_lt hlt, ?_⟩
    rw [range_eq_error_iff, and_iff_right hlt, rangeFault, Fault.outOfBounds.injEq,
      show capacity = 0x1000 from rfl]
    omega

/-- Of a memory of three bytes, a range of four bytes that begins at the second: reading the bytes
one at a time names address 3, where memory ends, and the fault of the range names `1000`. -/
theorem range_reads_each_of_three_bytes :
    let m : Memory := ⟨#[1, 2, 3]⟩
    0 < 4 ∧ m.readEach 1 4 = .error (.outOfBounds 3) ∧
      m.range 1 4 = .error (.outOfBounds 0x1000) ∧ m.range 1 4 ≠ .error (.outOfBounds 3) := by
  intro m
  obtain ⟨-, -, -, -, hfault⟩ := range_reads_each m 1 (show 0 < 4 by decide)
  obtain ⟨-, hrange, hsame⟩ := hfault (.outOfBounds 3) rfl
  exact ⟨by decide, rfl, hrange, fun h => absurd (hsame.1 h) (by decide)⟩

/-- **The fault of a range need not name the first address that is missing.**  A memory of one byte
can be restored from a stored value.  In a range of two bytes the second is missing, and reading it
names address 1.  The operations on the range name `1000`. -/
theorem range_fault_past_missing :
    let m : Memory := ⟨#[7]⟩
    Memory.ofJson? (.object [("memory", .list [.ofNat 7])]) = some m ∧
      m.read 0 = .ok 7 ∧ m.read 1 = .error (.outOfBounds 1) ∧
      m.range 0 2 = .error (.outOfBounds 0x1000) ∧
      m.overwrite 0 [1, 2] = ⟨m, .error (.outOfBounds 0x1000)⟩ ∧
      m.readEach 0 2 = .error (.outOfBounds 1) ∧ m.range 0 2 ≠ m.readEach 0 2 := by
  intro m
  refine ⟨rfl, rfl, rfl, rfl, rfl, rfl, fun h => ?_⟩
  have haddress : Fault.outOfBounds 0x1000 = .outOfBounds 1 := Except.error.inj h
  exact absurd haddress (by decide)

end Chip8.Memory
