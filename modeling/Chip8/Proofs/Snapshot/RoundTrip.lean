import Chip8.Proofs.Json.Objects
import Chip8.Snapshot.Machine
import Chip8.Snapshot.Instruction

/-!
# Storing loses nothing, and neither does reading

What is stored reads back, whatever its size and however large its numbers.  In the other direction
a stored machine may have been written by somebody else, with its fields in another order and with
more fields than belong.  Once it is read, it is stored as the same value again: every number, flag
and list as it was, no field left out, and none added but those that do not belong removed.

## What is here

* `Dialect.trim`, `Flags.trim` and so on — a stored value with the fields that belong.
* `Dialect.faithful`, `Flags.faithful` and so on — each reader takes nothing but what is written.
* `Machine.snapshot_faithful` — both directions.
-/

set_option autoImplicit false

namespace Chip8

open Json

/-! ## The fields that belong -/

/-- A stored dialect with the fields that belong. -/
def Dialect.trim : Json → Json :=
  pick [("bin_ops", id), ("shift", id), ("dma_inc", id), ("jump_vx", id)]

/-- Stored flags with the fields that belong. -/
def Flags.trim : Json → Json :=
  pick [("pause", id), ("keypause", id), ("quirks", Dialect.trim)]

/-- Stored memory with the field that belongs. -/
def Memory.trim : Json → Json := pick [("memory", id)]

/-- A stored screen with the field that belongs. -/
def Screen.trim : Json → Json := pick [("pixels", id)]

/-- A stored machine with the fields that belong, and so are its parts. -/
def Machine.trim : Json → Json :=
  pick [("flags", Flags.trim), ("mem", Memory.trim), ("screen", Screen.trim), ("stack", id),
    ("pc", id), ("i", id), ("v", id), ("delay", id), ("sound", id), ("keys", id),
    ("waitreg", id), ("cycle", id)]

/-! ## Lists -/

theorem eq_of_vector? {α : Type} {n : Nat} {xs : List α} {v : Vector α n}
    (h : vector? n xs = some v) : xs = v.toList := by
  unfold vector? at h
  split at h
  · cases h
    rfl
  · cases h

theorem faithful_bytes? : Faithful (list? byte?) (ofList fun b => ofNat b.toNat) id :=
  faithful_of_eq fun _ _ => eq_of_list? @eq_of_byte?

theorem faithful_words? : Faithful (list? word16?) (ofList fun w => ofNat w.toNat) id :=
  faithful_of_eq fun _ _ => eq_of_list? @eq_of_word16?

theorem faithful_bools? : Faithful (list? bool?) (ofList .bool) id :=
  faithful_of_eq fun _ _ => eq_of_list? @eq_of_bool?

/-! ## Objects -/

theorem Dialect.faithful : Faithful ofJson? toJson trim := by
  intro v d hv h
  simp only [ofJson?, Option.bind_eq_bind, Option.bind_eq_some_iff, Option.pure_def,
    Option.some.injEq] at h
  obtain ⟨flag, ⟨_, atFlag, hflag⟩, source, ⟨_, atSource, hsource⟩, index, ⟨_, atIndex, hindex⟩,
    offset, ⟨_, atOffset, hoffset⟩, rfl⟩ := h
  obtain ⟨fields, rfl⟩ := exists_of_field? atFlag
  exact same_pick hv (by decide) <|
    .cons (faithful_bool?.holds hv atFlag hflag) <|
    .cons (faithful_bool?.holds hv atSource hsource) <|
    .cons (faithful_bool?.holds hv atIndex hindex) <|
    .cons (faithful_bool?.holds hv atOffset hoffset) .nil

theorem Flags.faithful : Faithful ofJson? toJson trim := by
  intro v f hv h
  simp only [ofJson?, Option.bind_eq_bind, Option.bind_eq_some_iff, Option.pure_def,
    Option.some.injEq] at h
  obtain ⟨pause, ⟨_, atPause, hpause⟩, keyWait, ⟨_, atWait, hwait⟩, dialect,
    ⟨_, atDialect, hdialect⟩, rfl⟩ := h
  obtain ⟨fields, rfl⟩ := exists_of_field? atPause
  exact same_pick hv (by decide) <|
    .cons (faithful_bool?.holds hv atPause hpause) <|
    .cons (faithful_bool?.holds hv atWait hwait) <|
    .cons (Dialect.faithful.holds hv atDialect hdialect) .nil

theorem Memory.faithful : Faithful ofJson? toJson trim := by
  intro v m hv h
  simp only [ofJson?, Option.bind_eq_bind, Option.bind_eq_some_iff, Option.pure_def,
    Option.some.injEq] at h
  obtain ⟨bytes, ⟨_, atBytes, hbytes⟩, rfl⟩ := h
  obtain ⟨fields, rfl⟩ := exists_of_field? atBytes
  exact same_pick hv (by decide) <| .cons (faithful_bytes?.holds hv atBytes hbytes) .nil

theorem Screen.faithful : Faithful ofJson? toJson trim := by
  intro v s hv h
  simp only [ofJson?, Option.bind_eq_bind, Option.bind_eq_some_iff, Option.pure_def,
    Option.some.injEq] at h
  obtain ⟨pixels, ⟨_, atPixels, hpixels⟩, rfl⟩ := h
  obtain ⟨fields, rfl⟩ := exists_of_field? atPixels
  exact same_pick hv (by decide) <| .cons (faithful_bools?.holds hv atPixels hpixels) .nil

namespace Machine

theorem faithful : Faithful ofJson? toJson trim := by
  intro v m hv h
  simp only [ofJson?, Option.bind_eq_bind, Option.bind_eq_some_iff, Option.pure_def,
    Option.some.injEq] at h
  obtain ⟨flags, ⟨_, atFlags, hflags⟩, memory, ⟨_, atMemory, hmemory⟩, screen,
    ⟨_, atScreen, hscreen⟩, stack, ⟨_, atStack, hstack⟩, pc, ⟨_, atPc, hpc⟩, index,
    ⟨_, atIndex, hindex⟩, registers, ⟨bytes, ⟨_, atRegisters, hbytes⟩, hregisters⟩, delay,
    ⟨_, atDelay, hdelay⟩, sound, ⟨_, atSound, hsound⟩, keys, ⟨bools, ⟨_, atKeys, hbools⟩, hkeys⟩,
    keyTarget, ⟨_, atTarget, htarget⟩, cycles, ⟨_, atCycles, hcycles⟩, rfl⟩ := h
  obtain ⟨fields, rfl⟩ := exists_of_field? atFlags
  rw [eq_of_vector? hregisters] at hbytes
  rw [eq_of_vector? hkeys] at hbools
  simp only [toJson, List.reverse_reverse]
  exact same_pick hv (by decide) <|
    .cons (Flags.faithful.holds hv atFlags hflags) <|
    .cons (Memory.faithful.holds hv atMemory hmemory) <|
    .cons (Screen.faithful.holds hv atScreen hscreen) <|
    .cons (faithful_words?.holds hv atStack hstack) <|
    .cons (faithful_word16?.holds hv atPc hpc) <|
    .cons (faithful_word16?.holds hv atIndex hindex) <|
    .cons (faithful_bytes?.holds hv atRegisters hbytes) <|
    .cons (faithful_byte?.holds hv atDelay hdelay) <|
    .cons (faithful_byte?.holds hv atSound hsound) <|
    .cons (faithful_bools?.holds hv atKeys hbools) <|
    .cons (faithful_word64?.holds hv atTarget htarget) <|
    .cons (faithful_word64?.holds hv atCycles hcycles) .nil

/-- **Storing loses nothing, and neither does reading.**  Whatever is stored reads back as it was:
machines, with memory, screen and stack of any length, instructions with any operands, platforms,
dialects, flags, memories and screens.  And a value without repeated labels that reads as a machine
is the value as which this machine is stored, up to the order of fields, once the fields that do
not belong are removed. -/
theorem snapshot_faithful :
    ((∀ m : Machine, ofJson? m.toJson = some m) ∧
      (∀ i : Instruction, Instruction.ofJson? i.toJson = some i) ∧
      (∀ p : Platform, Platform.ofJson? p.toJson = some p) ∧
      (∀ d : Dialect, Dialect.ofJson? d.toJson = some d) ∧
      (∀ f : Flags, Flags.ofJson? f.toJson = some f) ∧
      (∀ m : Memory, Memory.ofJson? m.toJson = some m) ∧
      ∀ s : Screen, Screen.ofJson? s.toJson = some s) ∧
    ∀ (v : Json) (m : Machine), v.Distinct → ofJson? v = some m → Same m.toJson (trim v) :=
  ⟨⟨ofJson?_toJson, Instruction.ofJson?_toJson, Platform.ofJson?_toJson, Dialect.ofJson?_toJson,
    Flags.ofJson?_toJson, Memory.ofJson?_toJson, Screen.ofJson?_toJson⟩, faithful⟩

/-- A machine of two bytes and one pixel, stored with its fields in another order, the largest
number of cycles there is, and a note at two depths. -/
theorem snapshot_faithful_of_noted :
    let dialect := Json.object [("note", .null), ("jump_vx", .bool true), ("dma_inc", .bool false),
      ("shift", .bool false), ("bin_ops", .bool true)]
    let v := Json.object [("cycle", .integer 18446744073709551615), ("note", .text "by hand"),
      ("flags", .object [("quirks", dialect), ("keypause", .bool false), ("pause", .bool true)]),
      ("mem", .object [("memory", .list [.integer 255, .integer 0])]),
      ("screen", .object [("pixels", .list [.bool true])]), ("stack", .list [.integer 65535]),
      ("pc", .integer 512), ("i", .integer 0), ("v", .list (List.replicate 16 (.integer 7))),
      ("delay", .integer 1), ("sound", .integer 0),
      ("keys", .list (List.replicate 16 (.bool false))), ("waitreg", .integer 16)]
    v.Distinct ∧ ∃ m, ofJson? v = some m ∧ m.cycles.toNat = 18446744073709551615 ∧
      Same m.toJson (trim v) := by
  intro dialect v
  have hv : v.Distinct := by simp [v, dialect]
  have hm : ∃ m, ofJson? v = some m ∧ m.cycles.toNat = 18446744073709551615 := ⟨_, rfl, rfl⟩
  obtain ⟨m, hm, hcycles⟩ := hm
  exact ⟨hv, m, hm, hcycles, snapshot_faithful.2 v m hv hm⟩

end Machine

end Chip8
