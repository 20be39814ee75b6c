import Chip8.Machine.Host
import Chip8.Proofs.Memory.Blocks

/-!
# A program in memory

Loading a program puts zeros in the place of programs first and the program itself second, so what
is in that place afterwards does not depend on what was there before.  Below it nothing changes.  A
program for which there is no room is refused before anything is cleared.

## What is here

* `Memory.loaded` — memory with a program in place of the last one, and `getElem?_loaded`, its bytes
  one by one.
* `Memory.loaded_congr` — memories that agree below the place of programs are the same once a
  program is loaded; `loaded_blit_block` makes a memory agree there with another one.
* `Machine.load_of_le`, `Machine.load_of_lt` — loading a program that is not too large, and one that
  is.
* `Machine.loadAll` — loading one program after another.
* `Machine.load_replaces` — what is refused and what is left, byte by byte, and that of several
  programs the last one counts.
-/

set_option autoImplicit false

namespace Chip8

namespace Memory

variable {m n : Memory} {program : List UInt8}

/-- Memory with a program in place of the last one, as far as there is room. -/
def loaded (m : Memory) (program : List UInt8) : Memory :=
  ⟨blit m.clearProgram.bytes programStart program⟩

theorem loadProgram_clearProgram (h : program.length ≤ programLimit) :
    m.clearProgram.loadProgram program = { memory := m.loaded program } := by
  rw [loadProgram, if_pos h, loaded]

@[simp] theorem size_loaded (m : Memory) (program : List UInt8) :
    (m.loaded program).size = m.size := by
  rw [loaded, size, size_blit]
  exact size_clearProgram m

/-- **The bytes of memory with a program in it**: those from before, the program, and zeros. -/
theorem getElem?_loaded (m : Memory) (program : List UInt8) (k : Nat) :
    (m.loaded program).bytes[k]? =
      if k < programStart then m.bytes[k]?
      else if k < m.size then some (program[k - programStart]?.getD 0) else none := by
  have hsize : m.clearProgram.bytes.size = m.size := size_clearProgram m
  rw [loaded, getElem?_blit, getElem?_clearProgram, hsize]
  by_cases hlow : k < programStart
  · rw [if_neg (by omega), if_pos hlow, if_pos hlow]
  · rw [if_neg hlow, if_neg hlow]
    by_cases hk : k < m.size
    · rw [if_pos hk, if_pos hk]
      by_cases hin : k - programStart < program.length
      · rw [if_pos (by omega), List.getElem?_eq_getElem hin, Option.getD_some]
      · rw [if_neg (by omega), List.getElem?_eq_none (by omega), Option.getD_none]
    · rw [if_neg (by omega), if_neg hk, if_neg hk]

/-- Where there is room for it, the program is found byte by byte from the start of programs on. -/
theorem byteAt_loaded {k : Nat} (hk : k < program.length)
    (hroom : programStart + program.length ≤ m.size) :
    (m.loaded program).byteAt (programStart + k) = program[k] := by
  rw [byteAt, getElem?_loaded, if_neg (by omega), if_pos (by omega), Option.getD_some,
    Nat.add_sub_cancel_left, List.getElem?_eq_getElem hk, Option.getD_some]

/-- **What is read from memory with a program in it**: the program from `200` on, zeros behind it,
and below it what was there before. -/
theorem reads_loaded (hsize : m.size = 0x1000) (hp : program.length ≤ 0xe00) :
    (∀ k (hk : k < program.length), (m.loaded program).read (0x200 + k) = .ok program[k]) ∧
    (∀ a, 0x200 + program.length ≤ a → a ≤ 0xfff → (m.loaded program).read a = .ok 0) ∧
    ∀ a < 0x200, (m.loaded program).read a = m.read a := by
  have hstart : programStart = 0x200 := rfl
  refine ⟨fun k hk => ?_, fun a hlo hhi => ?_, fun a ha => ?_⟩
  · have hroom : programStart + program.length ≤ m.size := by omega
    have hlt : programStart + k < (m.loaded program).size := by
      rw [size_loaded]
      omega
    rw [← hstart, read_of_lt hlt, byteAt_loaded hk hroom]
  · rw [read_eq_ok_iff, getElem?_loaded, if_neg (by omega), if_pos (by omega),
      List.getElem?_eq_none (by omega), Option.getD_none]
  · rw [read, getElem?_loaded, if_pos (by omega), read]

/-- **What was in the place of programs leaves no trace**: memories of one size that agree below it
are the same once a program is loaded. -/
theorem loaded_congr (hsize : m.size = n.size)
    (hlow : ∀ k < programStart, m.bytes[k]? = n.bytes[k]?) (program : List UInt8) :
    m.loaded program = n.loaded program := by
  have hbytes : (m.loaded program).bytes = (n.loaded program).bytes := by
    refine Array.ext_getElem? fun k => ?_
    rw [getElem?_loaded, getElem?_loaded, hsize]
    by_cases hk : k < programStart
    · rw [if_pos hk, if_pos hk, hlow k hk]
    · rw [if_neg hk, if_neg hk]
  exact congrArg Memory.mk hbytes

/-- Another memory of the same size that is given the bytes below the place of programs is, once a
program is loaded, the memory these bytes are from. -/
theorem loaded_blit_block (hsize : n.size = m.size) (hm : programStart ≤ m.size)
    (program : List UInt8) :
    loaded ⟨blit n.bytes 0 (m.block 0 programStart)⟩ program = m.loaded program := by
  refine loaded_congr ?_ (fun k hk => ?_) program
  · rw [size, size_blit]
    exact hsize
  · have hm' : 0 + programStart ≤ m.size := by omega
    have hn : 0 + programStart ≤ n.size := by omega
    have hk' : k < 0 + programStart := by omega
    simpa only using getElem?_blit_block hm' hn (Nat.zero_le k) hk'

end Memory

namespace Machine

variable {m : Machine} {program : List UInt8}

/-- A program that is not too large takes the place of the last one, and nothing else changes. -/
theorem load_of_le (h : program.length ≤ Memory.programLimit) :
    m.load program =
      ⟨{ m with memory := m.memory.loaded program }, .ok (), [.loaded program.length]⟩ := by
  rw [load_eq, if_neg (Nat.not_lt_of_le h), Memory.loadProgram_clearProgram h]

/-- A program that is too large is refused, and the last one stays. -/
theorem load_of_lt (h : Memory.programLimit < program.length) :
    m.load program = .fault (.programTooLarge program.length Memory.programLimit) m := by
  rw [load_eq, if_pos h]

/-! ## One program after another -/

/-- The machine after programs were loaded one after another. -/
def loadAll (m : Machine) (programs : List (List UInt8)) : Machine :=
  programs.foldl (fun m program => (m.load program).state) m

/-- Loading leaves everything but memory alone, and memory below the place of programs. -/
theorem load_keeps (m : Machine) (program : List UInt8) :
    ∃ memory : Memory, (m.load program).state = { m with memory } ∧ memory.size = m.memory.size ∧
      ∀ k < Memory.programStart, memory.bytes[k]? = m.memory.bytes[k]? := by
  rcases Nat.lt_or_ge Memory.programLimit program.length with hlt | hle
  · rw [load_of_lt hlt]
    exact ⟨m.memory, rfl, rfl, fun _ _ => rfl⟩
  · rw [load_of_le hle]
    refine ⟨_, rfl, Memory.size_loaded _ _, fun k hk => ?_⟩
    rw [Memory.getElem?_loaded, if_pos hk]

/-- And so does loading any number of programs. -/
theorem loadAll_keeps (m : Machine) (programs : List (List UInt8)) :
    ∃ memory : Memory, m.loadAll programs = { m with memory } ∧ memory.size = m.memory.size ∧
      ∀ k < Memory.programStart, memory.bytes[k]? = m.memory.bytes[k]? := by
  induction programs generalizing m with
  | nil => exact ⟨m.memory, rfl, rfl, fun _ _ => rfl⟩
  | cons program programs ih =>
    obtain ⟨first, hfirst, hsize, hlow⟩ := m.load_keeps program
    obtain ⟨memory, hall, hsize', hlow'⟩ := ih (m.load program).state
    rw [hfirst] at hall hsize' hlow'
    refine ⟨memory, ?_, hsize'.trans hsize, fun k hk => (hlow' k hk).trans (hlow k hk)⟩
    rw [loadAll, List.foldl_cons, hfirst]
    exact hall

/-- **The last program counts**, whatever was loaded or refused before it. -/
theorem loadAll_concat (m : Machine) (earlier : List (List UInt8))
    (h : program.length ≤ Memory.programLimit) :
    m.loadAll (earlier ++ [program]) = (m.load program).state := by
  obtain ⟨memory, hall, hsize, hlow⟩ := m.loadAll_keeps earlier
  have hlast : m.loadAll (earlier ++ [program]) = ((m.loadAll earlier).load program).state := by
    simp only [loadAll, List.foldl_append, List.foldl_cons, List.foldl_nil]
  rw [hlast, hall, load_of_le h, load_of_le h, Memory.loaded_congr hsize hlow]

/-- **Loading a program replaces the last one, or changes nothing.**  A program is refused iff it
has more than `e00` bytes, and then the machine is as it was, the last program included.  Any other
program is found from `200` on with nothing but zeros behind it; no byte below and no other part of
the machine changes.  So of several programs loaded in turn only the last one is left. -/
theorem load_replaces (hsize : m.memory.size = 0x1000) (program : List UInt8) :
    ((m.load program).result = .error (.programTooLarge program.length 0xe00) ↔
      0xe00 < program.length) ∧
    (0xe00 < program.length → (m.load program).state = m) ∧
    (program.length ≤ 0xe00 → (m.load program).result = .ok () ∧
      ∃ memory : Memory, (m.load program).state = { m with memory } ∧ memory.size = 0x1000 ∧
        (∀ k (hk : k < program.length), memory.read (0x200 + k) = .ok program[k]) ∧
        (∀ a, 0x200 + program.length ≤ a → a ≤ 0xfff → memory.read a = .ok 0) ∧
        ∀ a < 0x200, memory.read a = m.memory.read a) ∧
    (program.length ≤ 0xe00 → ∀ earlier : List (List UInt8),
      m.loadAll (earlier ++ [program]) = (m.load program).state) := by
  have hlimit : Memory.programLimit = 0xe00 := rfl
  refine ⟨⟨fun hfault => ?_, fun hlt => ?_⟩, fun hlt => ?_, fun hle => ?_, fun hle earlier => ?_⟩
  · refine Nat.lt_of_not_le fun hle => ?_
    rw [load_of_le (hlimit ▸ hle)] at hfault
    cases hfault
  · rw [load_of_lt (hlimit ▸ hlt)]
    rfl
  · rw [load_of_lt (hlimit ▸ hlt)]
    rfl
  · rw [load_of_le (hlimit ▸ hle)]
    exact ⟨rfl, m.memory.loaded program, rfl, (Memory.size_loaded _ _).trans hsize,
      Memory.reads_loaded hsize hle⟩
  · exact m.loadAll_concat earlier (hlimit ▸ hle)

/-- A program of one byte is loaded after one of three, with a refused one in between: its byte is
there, and nothing is left of the other two. -/
theorem load_replaces_after_longer :
    let m : Machine := {}
    let huge : List UInt8 := List.replicate 0xe01 7
    m.memory.size = 0x1000 ∧ (m.load huge).state = m ∧
      (m.loadAll [[1, 2, 3], huge, [9]]) = (m.load [9]).state ∧
      (m.load [9]).state.memory.read 0x200 = .ok 9 ∧
      (m.load [9]).state.memory.read 0x201 = .ok 0 := by
  intro m huge
  have hsize : m.memory.size = 0x1000 := Memory.size_initial
  have hhuge : huge.length = 0xe01 := List.length_replicate
  clear_value m huge
  obtain ⟨-, hrefused, -⟩ := load_replaces hsize huge
  obtain ⟨-, -, hloaded, hlast⟩ := load_replaces hsize [9]
  obtain ⟨-, memory, hstate, -, hbytes, hzeros, -⟩ := hloaded (by decide)
  rw [hstate]
  refine ⟨hsize, hrefused (by omega), ?_, hbytes 0 (by decide),
    hzeros 0x201 (by decide) (by decide)⟩
  rw [← hstate]
  exact hlast (by decide) [[1, 2, 3], huge]

end Machine

end Chip8
