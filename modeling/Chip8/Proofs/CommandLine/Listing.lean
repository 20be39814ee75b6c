import Chip8.Proofs.CommandLine.Reading
import Chip8.Proofs.Machine.Loading
import Chip8.Proofs.Machine.Transition
import Chip8.Proofs.Text.OneLine

/-!
# What is listed is what is executed

A listing goes through the bytes of a file, two at a time, and counts addresses from the start of
programs on.  A machine reads two bytes of memory at its program counter.  Once the file is loaded,
the two see the same words at the same addresses: a line of the listing begins with what the machine
reports when it fetches the word there.

## What is here

* `length_words`, `getElem?_words` — the words of a program.
* `length_listing`, `getElem_listing` — the lines of a listing.
* `Machine.fetch_loaded` — the word that is fetched from a program in memory.
* `entryText` — the address and the text of a word, and `plainLine_eq`, `message_fetched`, the two
  places where it is printed.
* `Lister.lines_agree_with_cycles` — the listing and the machine agree.
-/

set_option autoImplicit false

namespace Chip8

open Text

/-! ## Words and lines -/

namespace CommandLine

variable {program : List UInt8} {line : Nat → UInt16 → String} {o k : Nat}

theorem length_words : ∀ bytes : List UInt8, (words bytes).length = bytes.length / 2
  | [] => by simp [words]
  | [_] => by simp [words]
  | hi :: lo :: rest => by
    rw [words, List.length_cons, length_words rest, List.length_cons, List.length_cons]
    omega

/-- A word is made of the two bytes in its place. -/
theorem getElem?_words : ∀ (bytes : List UInt8) (k : Nat),
    (words bytes)[k]? = match bytes[2 * k]?, bytes[2 * k + 1]? with
      | some hi, some lo => some (Word.ofBytes hi lo)
      | _, _ => none
  | [], k => by simp [words]
  | [_], k => by simp [words]
  | hi :: lo :: rest, 0 => by simp [words]
  | hi :: lo :: rest, k + 1 => by
    rw [words, List.getElem?_cons_succ, getElem?_words rest k]
    rfl

theorem linesFrom_eq_mapIdx (line : Nat → UInt16 → String) (a : Nat) (ws : List UInt16) :
    linesFrom line a ws = ws.mapIdx fun k w => line (a + 2 * k) w := by
  induction ws generalizing a with
  | nil => rfl
  | cons w ws ih =>
    rw [linesFrom, ih, List.mapIdx_cons]
    refine congrArg (line a w :: ·) (congrArg (ws.mapIdx ·) (funext fun k => ?_))
    rw [show a + 2 + 2 * k = a + 2 * (k + 1) by omega]

theorem length_listing (line : Nat → UInt16 → String) (o : Nat) (program : List UInt8) :
    (listing line o program).length = (program.length - min o program.length) / 2 := by
  rw [listing, linesFrom_eq_mapIdx, List.length_mapIdx, length_words, List.length_drop]

/-- **The lines of a listing**: line `k` shows the word `k` words behind the first byte listed, with
the address at which a program is loaded. -/
theorem getElem_listing (hk : k < (listing line o program).length) :
    let start := min o program.length
    ∃ hi lo, program[start + 2 * k]? = some hi ∧ program[start + 2 * k + 1]? = some lo ∧
      (listing line o program)[k] = line (0x200 + start + 2 * k) (Word.ofBytes hi lo) := by
  intro start
  have hroom : start + 2 * k + 1 < program.length := by
    rw [length_listing] at hk
    omega
  have hhi := List.getElem?_eq_getElem (show start + 2 * k < program.length by omega)
  have hlo := List.getElem?_eq_getElem hroom
  refine ⟨_, _, hhi, hlo, ?_⟩
  have hword : (words (program.drop start))[k]? =
      some (Word.ofBytes program[start + 2 * k] program[start + 2 * k + 1]) := by
    rw [getElem?_words, List.getElem?_drop, List.getElem?_drop, ← Nat.add_assoc, hhi, hlo]
  have hline : (listing line o program)[k]? = some
      (line (0x200 + start + 2 * k)
        (Word.ofBytes program[start + 2 * k] program[start + 2 * k + 1])) := by
    rw [listing, linesFrom_eq_mapIdx, List.getElem?_mapIdx, hword, Option.map_some]
  exact Option.some_inj.1 ((List.getElem?_eq_getElem hk).symm.trans hline)

end CommandLine

/-! ## What a machine fetches -/

namespace Machine

variable {m : Machine} {program : List UInt8} {hi lo : UInt8} {w : UInt16} {a j : Nat}

/-- With a program in memory, a machine fetches the two bytes of the program that its counter points
at. -/
theorem fetch_loaded (hm : m.memory.size = Memory.capacity)
    (hp : program.length ≤ Memory.programLimit) (hhi : program[j]? = some hi)
    (hlo : program[j + 1]? = some lo) (ha : a = Memory.programStart + j) :
    let loaded : Machine := { (m.load program).state with pc := .ofNat a }
    loaded.pc.toNat = a ∧ loaded.fetch = .ok (Word.ofBytes hi lo) := by
  intro loaded
  obtain ⟨hj, rfl⟩ := List.getElem?_eq_some_iff.1 hhi
  obtain ⟨hj', rfl⟩ := List.getElem?_eq_some_iff.1 hlo
  have hend : Memory.programStart + program.length ≤ 0x1000 := by
    simp only [Memory.programLimit, Memory.capacity, Memory.programStart] at hp ⊢
    omega
  have hroom : Memory.programStart + program.length ≤ m.memory.size :=
    Nat.le_trans hend (Nat.le_of_eq hm.symm)
  have hpc : loaded.pc.toNat = a := UInt16.toNat_ofNat_of_lt' (show a < 0x10000 by omega)
  have hmem : loaded.memory = m.memory.loaded program := by
    show (m.load program).state.memory = _
    rw [load_of_le hp]
  have hfetch : loaded.pc.toNat + 1 < loaded.memory.size := by
    rw [hpc, hmem, Memory.size_loaded]
    omega
  refine ⟨hpc, ?_⟩
  rw [fetch_of_lt hfetch, word, hpc, hmem, ha, Memory.byteAt_loaded hj hroom, Nat.add_assoc,
    Memory.byteAt_loaded hj' hroom]

/-- A cycle of a machine that is not paused begins with a report of the word fetched. -/
theorem events_cycle (hp : m.flags.isPaused = false) (hw : m.fetch = .ok w) (random : UInt8) :
    (m.cycle random).events =
      .fetched m.cycles m.pc w :: (m.runWord random w).events := by
  rw [cycle, hp, hw]
  rfl

end Machine

/-! ## What is printed of a word -/

/-- The address and the text of a word. -/
def entryText (a : Nat) (w : UInt16) : String :=
  hex 3 a ++ ": " ++ padRight 36 (Disassembly.plain.once w)

theorem CommandLine.plainLine_eq (a : Nat) (w : UInt16) :
    plainLine a w = entryText a w ++ " " ++ hex 4 w.toNat := by
  rw [plainLine, entryText]

theorem message_fetched (n : UInt64) (pc w : UInt16) :
    (Event.fetched n pc w).message =
      padLeft 6 (decimal n.toNat) ++ " " ++ entryText pc.toNat w := by
  show padLeft 6 (decimal n.toNat) ++ " " ++ hex 3 pc.toNat ++ ": " ++
    padRight 36 (Disassembly.plain.once w) = _
  simp only [entryText, String.append_assoc]

theorem oneLine_entryText (a : Nat) (w : UInt16) : OneLine (entryText a w) := by
  simp only [entryText, oneLine_append, oneLine_hex, oneLine_padRight, true_and]
  exact ⟨by decide, oneLine_once w⟩

theorem CommandLine.oneLine_plainLine (a : Nat) (w : UInt16) : OneLine (plainLine a w) := by
  simp only [plainLine_eq, oneLine_append, oneLine_hex, oneLine_entryText, true_and, and_true]
  decide

/-! ## Listing and machine -/

namespace CommandLine.Lister

/-- **A listing agrees with the machine.**  The plain listing of a file from byte `o` on has a line
for each two bytes from there, and leaves out no more than an odd last byte.  Line `k` shows the
address and the word of two bytes of the file; once the file is loaded into a machine, this is the
word that a cycle fetches at this address, and what the cycle reports of it is on the line. -/
theorem lines_agree_with_cycles {o : Nat} (ho : o < UInt64.size) {name : String}
    (hname : name.toList.head? ≠ some '-') {program : List UInt8} (hp : program.length ≤ 0xe00)
    {files : String → Except FileFault (List UInt8)} (hfile : files name = .ok program)
    (exe : String) :
    let start := min o program.length
    let report := (plan exe ["--plain", "--offset", decimal o, name]).carryOut files
    ∃ lines : List String,
      report = { out := String.join (lines.map (· ++ "\n")) } ∧ (∀ line ∈ lines, OneLine line) ∧
      lines.length = (program.length - start) / 2 ∧
      program.length = start + 2 * lines.length + (program.length - start) % 2 ∧
      ∀ k, (hk : k < lines.length) →
        let a := 0x200 + start + 2 * k
        ∃ hi lo w, program[start + 2 * k]? = some hi ∧ program[start + 2 * k + 1]? = some lo ∧
          w = Word.ofBytes hi lo ∧ lines[k] = entryText a w ++ " " ++ hex 4 w.toNat ∧
          ∀ m : Machine, m.memory.size = 0x1000 →
            (m.load program).result = .ok () ∧
            let loaded : Machine := { (m.load program).state with pc := .ofNat a }
            loaded.pc.toNat = a ∧ loaded.fetch = .ok w ∧
            (loaded.flags.isPaused = false → ∀ random, ∃ event rest,
              (loaded.cycle random).events = event :: rest ∧
              event.message = padLeft 6 (decimal m.cycles.toNat) ++ " " ++ entryText a w) := by
  intro start report
  have hreport : report =
      { out := String.join ((listing plainLine o program).map (· ++ "\n")) } := by
    show (plan exe ["--plain", "--offset", decimal o, name]).carryOut files = _
    rw [plan, read_plain_offset ho hname]
    show Plan.carryOut files (.onFile name _) = _
    rw [Plan.carryOut, hfile]
    rfl
  have hlength := length_listing plainLine o program
  refine ⟨listing plainLine o program, hreport, fun line hline => ?_, hlength, by omega,
    fun k hk => ?_⟩
  · obtain ⟨k, hk, rfl⟩ := List.getElem_of_mem hline
    obtain ⟨hi, lo, -, -, hline⟩ := getElem_listing hk
    rw [hline]
    exact oneLine_plainLine _ _
  · intro a
    obtain ⟨hi, lo, hhi, hlo, hline⟩ := getElem_listing hk
    refine ⟨hi, lo, _, hhi, hlo, rfl, hline.trans (plainLine_eq _ _), fun m hm => ?_⟩
    have hload := Machine.load_of_le (m := m) hp
    refine ⟨by rw [hload], ?_⟩
    intro loaded
    have ha : a = Memory.programStart + (start + 2 * k) := Nat.add_assoc _ _ _
    obtain ⟨hpc, hfetch⟩ := Machine.fetch_loaded hm hp hhi hlo ha
    refine ⟨hpc, hfetch, fun hawake random => ?_⟩
    refine ⟨_, _, Machine.events_cycle hawake hfetch random, ?_⟩
    have hcycles : loaded.cycles = m.cycles := by
      show (m.load program).state.cycles = m.cycles
      rw [hload]
    rw [message_fetched, hcycles, hpc]

/-- Of six bytes from the second one on, two words are listed and the last byte is left out.  The
second word stands at address 203 and draws a sprite. -/
theorem lines_agree_with_cycles_at_odd_offset :
    let program : List UInt8 := [0x00, 0xa2, 0x1e, 0xd0, 0x15, 0x12]
    let files : String → Except FileFault (List UInt8) := fun _ => .ok program
    let report := (plan "lister" ["--plain", "--offset", decimal 1, "game"]).carryOut files
    let loaded : Machine := { (Machine.load program {}).state with pc := 0x203 }
    ∃ lines : List String, report = { out := String.join (lines.map (· ++ "\n")) } ∧
      lines.length = 2 ∧ lines[1]? = some (entryText 0x203 0xd015 ++ " " ++ hex 4 0xd015) ∧
      loaded.fetch = .ok 0xd015 ∧
      ∃ event rest, (loaded.cycle 0).events = event :: rest ∧
        event.message = padLeft 6 (decimal 0) ++ " " ++ entryText 0x203 0xd015 := by
  intro program files report loaded
  have ho : 1 < UInt64.size := by decide
  have hname : "game".toList.head? ≠ some '-' := by decide
  have hp : program.length ≤ 0xe00 := by decide
  have hfile : files "game" = .ok program := rfl
  obtain ⟨lines, hreport, -, hlength, -, hlines⟩ :=
    lines_agree_with_cycles ho hname hp hfile "lister"
  have htwo : lines.length = 2 := hlength.trans (by decide)
  have hk : 1 < lines.length := by omega
  obtain ⟨hi, lo, w, hhi, hlo, rfl, hline, hmachine⟩ := hlines 1 hk
  have hhi' : hi = 0xd0 := (Option.some_inj.1 hhi).symm
  have hlo' : lo = 0x15 := (Option.some_inj.1 hlo).symm
  subst hhi' hlo'
  obtain ⟨-, -, hfetch, hcycle⟩ := hmachine {} Memory.size_initial
  exact ⟨lines, hreport, htwo, (List.getElem?_eq_getElem hk).trans (congrArg some hline), hfetch,
    hcycle rfl 0⟩

end CommandLine.Lister

end Chip8
