import Chip8.Memory.Hexdump
import Chip8.Proofs.Memory.Blocks
import Chip8.Proofs.Text.Digits
import Chip8.Proofs.Text.Lines

/-!
# Reading memory off its hexdump

A line of a hexdump is an address, a colon and the digits of up to sixteen bytes, with a blank in
front of every byte at an even address.  No digit is a colon or a blank.  So the address ends at the
first colon, however many digits it has, and without the blanks the rest of the line is the bytes of
one row, two digits each.  The rows are the bytes of memory in order, hence all of memory can be
read off, whatever its length.

## What is here

* `digitsOf`, `bytesOf?` — the digits of a line without address and blanks, and the bytes of a text.
* `pairsText_map_byteAt` — the bytes of a line by their addresses.
* `hexdump_eq_unlines`, `bytesOf?_hexdump` — the dump line by line, and read back.
* `hexdump_faithful` — what each line of the dump shows, and that the dump tells the memory.
-/

set_option autoImplicit false

namespace Chip8.Memory

open Text

variable {m : Memory} {a : Nat}

/-! ## Reading -/

/-- What a line shows behind its address, without blanks. -/
def digitsOf (line : List Char) : List Char :=
  ((line.dropWhile (· ≠ ':')).drop 1).filter (· ≠ ' ')

/-- The bytes that the lines of a text show. -/
def bytesOf? (t : String) : Option (List UInt8) := hexBytes? ((linesOf t).flatMap digitsOf)

/-! ## Lines -/

/-- The lines of the rows of sixteen bytes from address `a` on. -/
def rowLines (a : Nat) (rows : List (List UInt8)) : List String :=
  rows.mapIdx fun k row => hex 3 (a + 16 * k) ++ ":" ++ pairsText row

theorem linesText_eq_unlines (a : Nat) (rows : List (List UInt8)) :
    linesText a rows = unlines (rowLines a rows) := by
  induction rows generalizing a with
  | nil => rfl
  | cons row rows ih =>
    rw [linesText, ih, rowLines, rowLines, List.mapIdx_cons, lineText]
    simp [unlines, Nat.mul_succ, Nat.add_assoc, Nat.add_comm]

theorem hexdump_eq_unlines (m : Memory) :
    m.hexdump = unlines (rowLines 0 (rows 16 m.bytes.toList)) := linesText_eq_unlines _ _

theorem toList_pairsText (row : List UInt8) :
    (pairsText row).toList = (rows 2 row).flatMap fun pair => ' ' :: (hexBytes pair).toList := by
  rw [pairsText, String.toList_join, List.flatMap_map]
  simp

/-- Without the blanks, the bytes of a line are written one behind the other. -/
theorem filter_pairsText (row : List UInt8) :
    (pairsText row).toList.filter (· ≠ ' ') = (hexBytes row).toList := by
  have hpair : ∀ pair : List UInt8,
      (' ' :: (hexBytes pair).toList).filter (· ≠ ' ') = (hexBytes pair).toList := by
    intro pair
    rw [List.filter_cons_of_neg (by simp), List.filter_eq_self]
    exact fun c hc => decide_eq_true fun heq => blank_notMem_hexBytes pair (heq ▸ hc)
  calc (pairsText row).toList.filter (· ≠ ' ')
    _ = (rows 2 row).flatMap fun pair => (hexBytes pair).toList := by
      rw [toList_pairsText, List.filter_flatMap]
      simp only [hpair]
    _ = (rows 2 row).flatten.flatMap fun b => (hex 2 b.toNat).toList := by
      simp only [toList_hexBytes, List.flatten_eq_flatMap, List.flatMap_assoc, id_eq]
    _ = (hexBytes row).toList := by rw [flatten_rows (by decide), toList_hexBytes]

theorem digitsOf_line (a : Nat) (row : List UInt8) :
    digitsOf (hex 3 a ++ ":" ++ pairsText row).toList = (hexBytes row).toList := by
  have hcolon : (hex 3 a ++ ":" ++ pairsText row).toList.dropWhile (· ≠ ':') =
      ':' :: (pairsText row).toList := by
    rw [String.append_assoc, String.toList_append, List.dropWhile_append_of_pos]
    · simp
    · exact fun c hc => decide_eq_true fun heq => notMem_hex (by decide) 3 a (heq ▸ hc)
  rw [digitsOf, hcolon, List.drop_one, List.tail_cons, filter_pairsText]

theorem oneLine_line (a : Nat) (row : List UInt8) : OneLine (hex 3 a ++ ":" ++ pairsText row) := by
  have hbyte : ∀ pair : List UInt8, OneLine (hexBytes pair) := fun pair =>
    oneLine_join (List.forall_mem_map.2 fun b _ => oneLine_hex 2 b.toNat)
  have hpair : ∀ pair : List UInt8, OneLine (" " ++ hexBytes pair) := fun pair =>
    oneLine_append.2 ⟨by decide, hbyte pair⟩
  rw [oneLine_append, oneLine_append]
  exact ⟨⟨oneLine_hex 3 a, by decide⟩,
    oneLine_join (List.forall_mem_map.2 fun pair _ => hpair pair)⟩

theorem oneLine_rowLines {rows : List (List UInt8)} : ∀ line ∈ rowLines a rows, OneLine line := by
  intro line hline
  obtain ⟨k, hk, rfl⟩ := List.mem_mapIdx.1 hline
  exact oneLine_line _ _

theorem flatMap_digitsOf (a : Nat) (rows : List (List UInt8)) :
    ((rowLines a rows).map String.toList).flatMap digitsOf = (hexBytes rows.flatten).toList := by
  induction rows generalizing a with
  | nil => rfl
  | cons row rows ih =>
    have hrest : rowLines a (row :: rows) =
        (hex 3 a ++ ":" ++ pairsText row) :: rowLines (a + 16) rows := by
      simp [rowLines, Nat.mul_succ, Nat.add_assoc, Nat.add_comm]
    rw [hrest, List.map_cons, List.flatMap_cons, ih, digitsOf_line, List.flatten_cons,
      toList_hexBytes, toList_hexBytes, toList_hexBytes, List.flatMap_append]

/-- **Memory is read off its hexdump.** -/
theorem bytesOf?_hexdump (m : Memory) : bytesOf? m.hexdump = some m.bytes.toList := by
  rw [bytesOf?, hexdump_eq_unlines, linesOf_unlines oneLine_rowLines, flatMap_digitsOf,
    flatten_rows (by decide), hexBytes?_hexBytes]

/-! ## Bytes by address -/

/-- How the byte at an address is shown: as two lowercase digits, the high half first, with a blank
in front of every other byte. -/
def shownByte (m : Memory) (a : Nat) : String :=
  (if a % 2 = 0 then " " else "") ++
    String.ofList [((m.byteAt a).toNat / 16).digitChar, ((m.byteAt a).toNat % 16).digitChar]

theorem shownByte_of_even (ha : a % 2 = 0) : m.shownByte a = " " ++ hex 2 (m.byteAt a).toNat := by
  rw [shownByte, if_pos ha, ← toList_hex_two, String.ofList_toList]

theorem shownByte_of_odd (ha : a % 2 ≠ 0) : m.shownByte a = hex 2 (m.byteAt a).toNat := by
  rw [shownByte, if_neg ha, String.empty_append, ← toList_hex_two, String.ofList_toList]

theorem pairsText_cons_cons (b c : UInt8) (row : List UInt8) :
    pairsText (b :: c :: row) = " " ++ hex 2 b.toNat ++ hex 2 c.toNat ++ pairsText row := by
  rw [pairsText, rows_of_ne_nil (List.cons_ne_nil _ _) (by decide), List.map_cons, String.join_cons,
    pairsText]
  simp [hexBytes, String.append_assoc]

/-- The bytes of a line by their addresses, of which the first is even. -/
theorem pairsText_map_byteAt (m : Memory) : ∀ (a n : Nat), a % 2 = 0 →
    pairsText ((List.range' a n).map m.byteAt) = String.join ((List.range' a n).map m.shownByte)
  | _, 0, _ => by simp [pairsText, rows_nil]
  | a, 1, ha => by simp [pairsText, rows_of_ne_nil, rows_nil, hexBytes, shownByte_of_even ha]
  | a, n + 2, ha => by
    have hodd : (a + 1) % 2 ≠ 0 := by omega
    have hnext : (a + 2) % 2 = 0 := by omega
    simp only [List.range'_succ, List.map_cons, String.join_cons]
    rw [pairsText_cons_cons, pairsText_map_byteAt m (a + 2) n hnext, shownByte_of_even ha,
      shownByte_of_odd hodd, String.append_assoc]

/-- The bytes of memory from `a` on, as many as are asked for and there, by their addresses. -/
theorem take_drop_bytes (m : Memory) (a n : Nat) :
    (m.bytes.toList.drop a).take n =
      (List.range' a (min (a + n) m.size - a)).map m.byteAt := by
  refine List.ext_getElem? fun k => ?_
  rw [List.getElem?_take, List.getElem?_drop, Array.getElem?_toList, List.getElem?_map]
  by_cases hk : k < min (a + n) m.size - a
  · rw [if_pos (by omega), getElem?_of_lt (by omega), List.getElem?_range' hk, Option.map_some,
      Nat.one_mul]
  · rw [List.getElem?_eq_none (by rw [List.length_range']; omega), Option.map_none]
    by_cases hn : k < n
    · rw [if_pos hn]
      exact Array.getElem?_eq_none (show m.size ≤ a + k by omega)
    · rw [if_neg hn]

/-- **A hexdump is faithful.**  Whatever the length of memory, its dump has a line for every sixteen
bytes and one for what is left.  Line `k` is the address `16 * k` in hexadecimal, with three digits
or more, a colon, and the bytes from there up to the next line's address or to the end of memory, in
order, each as two lowercase digits and with a blank in front of every other one, beginning with the
first.  Without the addresses and the blanks the dump is the bytes of memory, so two memories with
the same dump are the same. -/
theorem hexdump_faithful (m : Memory) :
    (∃ lines : List String, m.hexdump = unlines lines ∧ lines.length = (m.size + 15) / 16 ∧
      (∀ line ∈ lines, OneLine line) ∧
      ∀ k, (hk : k < lines.length) → lines[k] = hex 3 (16 * k) ++ ":" ++ String.join
        ((List.range' (16 * k) (min (16 * k + 16) m.size - 16 * k)).map m.shownByte)) ∧
    bytesOf? m.hexdump = some m.bytes.toList ∧
    ∀ m' : Memory, m.hexdump = m'.hexdump ↔ m = m' := by
  refine ⟨⟨rowLines 0 (rows 16 m.bytes.toList), hexdump_eq_unlines m, ?_, oneLine_rowLines,
      fun k hk => ?_⟩,
    bytesOf?_hexdump m, fun m' => ⟨fun heq => ?_, congrArg _⟩⟩
  · rw [rowLines, List.length_mapIdx, rows_eq_map (by decide), List.length_map, List.length_range]
    rfl
  · have hfirst : 16 * k % 2 = 0 := by omega
    simp only [rowLines, List.getElem_mapIdx, rows_eq_map (show 0 < 16 by decide), List.getElem_map,
      List.getElem_range, Nat.zero_add, take_drop_bytes, pairsText_map_byteAt m _ _ hfirst]
  · have hbytes := congrArg bytesOf? heq
    rw [bytesOf?_hexdump, bytesOf?_hexdump, Option.some_inj, Array.toList_inj] at hbytes
    exact congrArg Memory.mk hbytes

end Chip8.Memory
