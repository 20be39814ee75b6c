import Chip8.Proofs.Memory.Blocks

/-!
# Memory keeps what it is given

Every edit of memory writes a list of bytes to a place, or fails.  Whether it fails depends on the
edit alone, since no edit changes the number of bytes; so a list of edits can be read as a log, in
which the byte at an address is looked up without any memory: it is the one that the last edit in
the log to reach this address has put there.

## What is here

* `Edit.start`, `Edit.bytes` — what an edit writes, and where; `Edit.Fits`, that there is room for
  it.
* `Edit.given?` — the byte that an edit gives to an address, and `Memory.lastGiven?`, the byte that
  a list of edits gives to it.
* `Memory.edit`, `Memory.editAll` — memory after an edit and after a list of edits.
* `edit_eq` — an edit writes its bytes to its place, or nothing at all; `getElem?_edit` and
  `getElem?_editAll` say what this means for the byte at an address.
* `Memory.initial_eq` — memory at power-on is zeros with the glyphs put in their place.
* `Memory.reads_last_given` — what is read is what was given last.
-/

set_option autoImplicit false

namespace Chip8

namespace Memory

variable {m : Memory} {e : Edit} {k : Nat}

/-! ## Edits as writing -/

/-- Where an edit begins to write. -/
def Edit.start : Edit → Nat
  | .write a _ => a
  | .overwrite a _ => a
  | .loadFont => 0x050
  | .loadProgram _ => 0x200
  | .clearProgram => 0x200

/-- The bytes that an edit writes. -/
def Edit.bytes : Edit → List UInt8
  | .write _ b => [b]
  | .overwrite _ bs => bs
  | .loadFont => font
  | .loadProgram program => program
  | .clearProgram => List.replicate 0xe00 0

/-- There is room for the bytes where the edit writes them. -/
def Edit.Fits (e : Edit) : Prop := e.start + e.bytes.length ≤ 0x1000

instance : Decidable e.Fits := inferInstanceAs (Decidable (_ ≤ _))

/-- The byte that an edit gives to the address `k`, if it fits and reaches it. -/
def Edit.given? (e : Edit) (k : Nat) : Option UInt8 :=
  if e.Fits ∧ e.start ≤ k then e.bytes[k - e.start]? else none

/-- The byte that the last of the edits to reach the address `k` gives to it, if one does. -/
def lastGiven? (es : List Edit) (k : Nat) : Option UInt8 := es.reverse.findSome? (·.given? k)

/-- Memory after an edit. -/
def edit (m : Memory) (e : Edit) : Memory := (m.perform e).memory

/-- Memory after a list of edits. -/
def editAll (m : Memory) (es : List Edit) : Memory := es.foldl edit m

/-! ## One edit -/

/-- Clearing the place of programs writes zeros to it. -/
theorem clearProgram_eq (hm : m.size = capacity) :
    m.clearProgram = ⟨blit m.bytes programStart (List.replicate programLimit 0)⟩ := by
  have hsize : m.bytes.size = 0x1000 := hm
  have hstart : programStart = 0x200 := rfl
  have hlimit : programLimit = 0xe00 := rfl
  have hbytes : m.clearProgram.bytes =
      blit m.bytes programStart (List.replicate programLimit 0) := by
    refine Array.ext_getElem? fun k => ?_
    rw [getElem?_clearProgram, getElem?_blit, List.length_replicate, List.getElem?_replicate, size]
    rcases Nat.lt_or_ge k programStart with hlow | hlow
    · rw [if_pos hlow, if_neg (by omega)]
    · rw [if_neg (by omega)]
      rcases Nat.lt_or_ge k m.bytes.size with hk | hk
      · rw [if_pos hk, if_pos (by omega), if_pos (by omega)]
      · rw [if_neg (by omega), if_neg (by omega), Array.getElem?_eq_none hk]
  exact congrArg Memory.mk hbytes

/-- An edit that fits writes its bytes to its place. -/
theorem perform_of_fits (hm : m.size = capacity) (he : e.Fits) :
    m.perform e = { memory := ⟨blit m.bytes e.start e.bytes⟩ } := by
  have hsize : m.size = 0x1000 := hm
  have hlimit : programLimit = 0xe00 := rfl
  cases e with
  | write a b =>
    have ha : a + 1 ≤ 0x1000 := he
    rw [perform, write, if_pos (by omega)]
    rfl
  | overwrite a bs =>
    have hroom : a + bs.length ≤ 0x1000 := he
    exact overwrite_of_le (by omega)
  | loadFont => rfl
  | loadProgram program =>
    have hroom : 0x200 + program.length ≤ 0x1000 := he
    rw [perform, loadProgram, if_pos (by omega)]
    rfl
  | clearProgram =>
    rw [perform, clearProgram_eq hm]
    rfl

theorem fits_clearProgram : Edit.clearProgram.Fits := by
  simp only [Edit.Fits, Edit.start, Edit.bytes, List.length_replicate]
  decide

/-- An edit that does not fit fails. -/
theorem perform_of_not_fits (hm : m.size = capacity) (he : ¬ e.Fits) :
    ∃ f, (m.perform e).result = .error f := by
  have hsize : m.size = 0x1000 := hm
  have hlimit : programLimit = 0xe00 := rfl
  cases e with
  | write a b =>
    have ha : ¬ a + 1 ≤ 0x1000 := he
    rw [perform, write, if_neg (by omega)]
    exact ⟨_, rfl⟩
  | overwrite a bs =>
    have hroom : ¬ a + bs.length ≤ 0x1000 := he
    rw [perform, overwrite_of_lt (by omega)]
    exact ⟨_, rfl⟩
  | loadFont => exact absurd (by decide) he
  | loadProgram program =>
    have hroom : ¬ 0x200 + program.length ≤ 0x1000 := he
    rw [perform, loadProgram, if_neg (by omega)]
    exact ⟨_, rfl⟩
  | clearProgram =>
    exact absurd fits_clearProgram he

/-- Whether an edit succeeds can be told from the edit alone. -/
theorem result_perform_eq_ok_iff (hm : m.size = capacity) :
    (m.perform e).result = .ok () ↔ e.Fits := by
  by_cases he : e.Fits
  · rw [perform_of_fits hm he]
    exact ⟨fun _ => he, fun _ => rfl⟩
  · obtain ⟨f, hf⟩ := perform_of_not_fits hm he
    rw [hf]
    exact ⟨nofun, fun h => absurd h he⟩

/-- **An edit writes its bytes to its place, or nothing at all.** -/
theorem edit_eq (hm : m.size = capacity) (e : Edit) :
    m.edit e = if e.Fits then ⟨blit m.bytes e.start e.bytes⟩ else m := by
  rw [edit]
  by_cases he : e.Fits
  · rw [perform_of_fits hm he, if_pos he]
  · obtain ⟨f, hf⟩ := perform_of_not_fits hm he
    rw [memory_of_failed hf, if_neg he]

theorem size_edit (hm : m.size = capacity) (e : Edit) : (m.edit e).size = capacity := by
  rw [edit_eq hm]
  split
  · rw [size, size_blit]
    exact hm
  · exact hm

/-- The byte at an address is the one that the edit gives to it, or else the one from before. -/
theorem getElem?_edit (hm : m.size = capacity) (e : Edit) (k : Nat) :
    (m.edit e).bytes[k]? = (e.given? k).or m.bytes[k]? := by
  have hsize : m.bytes.size = 0x1000 := hm
  rw [edit_eq hm, Edit.given?]
  by_cases he : e.Fits
  · have hroom : e.start + e.bytes.length ≤ 0x1000 := he
    rw [if_pos he, getElem?_blit]
    by_cases hk : e.start ≤ k ∧ k < e.start + e.bytes.length
    · have hin : k - e.start < e.bytes.length := by omega
      rw [if_pos (by omega), if_pos ⟨he, hk.1⟩, List.getElem?_eq_getElem hin, Option.some_or]
    · rw [if_neg (by omega)]
      split
      · rw [List.getElem?_eq_none (by omega), Option.none_or]
      · rw [Option.none_or]
  · rw [if_neg he, if_neg (fun h => he h.1), Option.none_or]

/-! ## A list of edits -/

theorem size_editAll (hm : m.size = capacity) (es : List Edit) :
    (m.editAll es).size = capacity := by
  induction es generalizing m with
  | nil => exact hm
  | cons e es ih => exact ih (size_edit hm e)

theorem lastGiven?_cons (e : Edit) (es : List Edit) (k : Nat) :
    lastGiven? (e :: es) k = (lastGiven? es k).or (e.given? k) := by
  rw [lastGiven?, List.reverse_cons, List.findSome?_append, List.findSome?_singleton, lastGiven?]

example : lastGiven? [.write 0x300 1, .overwrite 0x2ff [2, 3], .write 0x1000 9] 0x300 = some 3 := by
  decide

/-- **The byte at an address is the one that it was given last**, or else the one from the start. -/
theorem getElem?_editAll (hm : m.size = capacity) (es : List Edit) (k : Nat) :
    (m.editAll es).bytes[k]? = (lastGiven? es k).or m.bytes[k]? := by
  induction es generalizing m with
  | nil => rfl
  | cons e es ih =>
    have hrest : ((m.edit e).editAll es).bytes[k]? = (lastGiven? es k).or (m.edit e).bytes[k]? :=
      ih (size_edit hm e)
    rw [lastGiven?_cons, Option.or_assoc, ← getElem?_edit hm]
    exact hrest

/-! ## From power-on -/

/-- The byte at an address at power-on: one of a glyph, or zero. -/
def initialByte (k : Nat) : UInt8 := if 0x050 ≤ k ∧ k < 0x0a0 then font[k - 0x050]?.getD 0 else 0

/-- Memory at power-on is zeros with the glyphs put in their place. -/
theorem initial_eq : initial = loadFont ⟨.replicate capacity 0⟩ := by
  have hcapacity : capacity = 0x1000 := rfl
  have hstart : fontStart = 0x050 := rfl
  have hfont : font.length = 80 := rfl
  have hbytes : initial.bytes = blit (.replicate capacity 0) fontStart font := by
    refine Array.ext_getElem? fun k => ?_
    rw [getElem?_blit, Array.size_replicate, Array.getElem?_replicate, initial,
      List.getElem?_toArray, List.getElem?_append, List.getElem?_append, List.length_append,
      List.length_replicate, List.getElem?_replicate, List.getElem?_replicate]
    rcases Nat.lt_or_ge k fontStart with hlow | hlow
    · rw [if_pos (by omega), if_pos hlow, if_pos hlow, if_neg (by omega), if_pos (by omega)]
    · rcases Nat.lt_or_ge k (fontStart + font.length) with hk | hk
      · rw [if_pos hk, if_neg (by omega), if_pos (by omega)]
      · rw [if_neg (by omega), if_neg (show ¬ (fontStart ≤ k ∧ _) by omega)]
        rcases Nat.lt_or_ge k capacity with hin | hout
        · rw [if_pos hin, if_pos (by omega)]
        · rw [if_neg (by omega), if_neg (by omega)]
  exact congrArg Memory.mk hbytes

theorem getElem?_initial (hk : k < capacity) : initial.bytes[k]? = some (initialByte k) := by
  have hstart : fontStart = 0x050 := rfl
  have hfont : font.length = 80 := rfl
  rw [initial_eq, loadFont, getElem?_blit, Array.size_replicate, Array.getElem?_replicate,
    if_pos hk, initialByte]
  by_cases hglyph : 0x050 ≤ k ∧ k < 0x0a0
  · have hin : k - 0x050 < font.length := by omega
    rw [if_pos (by omega), if_pos hglyph, hstart, List.getElem?_eq_getElem hin, Option.getD_some]
  · rw [if_neg (by omega), if_neg hglyph]

/-- **Memory keeps what it is given.**  After any edits from power-on, some of which may have
failed, memory has `1000` bytes.  An edit succeeds iff there is room for it, and changes nothing if
it fails.  What is read at an address is what the last edit to reach it has put there, or what was
there at power-on.  A range can be read iff it lies within memory, and lists the bytes that can be
read one by one. -/
theorem reads_last_given (es : List Edit) :
    let m := initial.editAll es
    m.size = 0x1000 ∧
    (∀ e, ((m.perform e).result = .ok () ↔ e.Fits) ∧
      ∀ f, (m.perform e).result = .error f → (m.perform e).memory = m) ∧
    (∀ a < 0x1000, m.read a = .ok ((lastGiven? es a).getD (initialByte a))) ∧
    ∀ a len, ((∃ bs, m.range a len = .ok bs) ↔ a + len ≤ 0x1000) ∧
      ∀ bs, m.range a len = .ok bs → bs.length = len ∧
        ∀ j (hj : j < bs.length), m.read (a + j) = .ok bs[j] := by
  intro m
  have hm : m.size = 0x1000 := size_editAll size_initial es
  refine ⟨hm, fun e => ⟨result_perform_eq_ok_iff hm, fun f => memory_of_failed⟩,
    fun a ha => ?_, fun a len => ⟨?_, ?_⟩⟩
  · rw [read_eq_ok_iff, getElem?_editAll size_initial, getElem?_initial ha]
    cases lastGiven? es a <;> rfl
  · simp only [range_eq_ok_iff, hm, exists_and_left, exists_eq', and_true]
  · intro bs hbs
    obtain ⟨hle, rfl⟩ := range_eq_ok_iff.1 hbs
    refine ⟨length_block, fun j hj => ?_⟩
    rw [getElem_block hj]
    rw [length_block] at hj
    exact read_of_lt (by omega)

end Memory

end Chip8
