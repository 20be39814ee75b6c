import Chip8.Snapshot.Flags
import Chip8.Machine.Basic

/-!
# Stored machines

A machine is stored as an object with all of its state.  Memory, screen and stack may be of any
length; registers and keys are always sixteen.  Fields that do not belong are passed over when
reading; a field that is missing, of another kind or out of range makes the whole value unreadable.

## What is here

* `toJson` and `ofJson?` of `Memory`, `Screen` and `Machine`, each with the law that what is
  written reads back.
-/

set_option autoImplicit false

namespace Chip8

/-! ## Lists -/

/-- The list of the values of some items. -/
def Json.ofList {α : Type} (item : α → Json) (xs : List α) : Json := .list (xs.map item)

theorem Json.list?_ofList {α : Type} {read : Json → Option α} {item : α → Json}
    (h : ∀ a, read (item a) = some a) (xs : List α) : list? read (ofList item xs) = some xs := by
  rw [ofList, list?]
  induction xs with
  | nil => rfl
  | cons a as ih =>
    rw [List.map_cons, List.mapM_cons, h, ih]
    rfl

/-- The list as a vector, if it has the right length. -/
def vector? {α : Type} (n : Nat) (xs : List α) : Option (Vector α n) :=
  if h : xs.length = n then some ⟨xs.toArray, h⟩ else none

theorem vector?_toList {α : Type} {n : Nat} (v : Vector α n) : vector? n v.toList = some v := by
  rw [vector?, dif_pos (Vector.length_toList)]
  rfl

/-! ## Memory -/

namespace Memory

/-- Memory as a stored value. -/
def toJson (m : Memory) : Json :=
  .object [("memory", .ofList (fun b => .ofNat b.toNat) m.bytes.toList)]

/-- The memory that a stored value stands for. -/
def ofJson? (v : Json) : Option Memory := do
  let bytes ← (v.field? "memory").bind (Json.list? Json.byte?)
  pure ⟨bytes.toArray⟩

theorem ofJson?_toJson (m : Memory) : ofJson? m.toJson = some m := by
  simp [ofJson?, toJson, Json.field?, Json.fieldOf?, Json.list?_ofList Json.byte?_ofNat]

end Memory

/-! ## Screen -/

namespace Screen

/-- The screen as a stored value. -/
def toJson (s : Screen) : Json := .object [("pixels", .ofList .bool s.pixels.toList)]

/-- The screen that a stored value stands for. -/
def ofJson? (v : Json) : Option Screen := do
  let pixels ← (v.field? "pixels").bind (Json.list? Json.bool?)
  pure ⟨pixels.toArray⟩

theorem ofJson?_toJson (s : Screen) : ofJson? s.toJson = some s := by
  simp [ofJson?, toJson, Json.field?, Json.fieldOf?, Json.list?_ofList Json.bool?_bool]

end Screen

/-! ## Machines -/

namespace Machine

/-- The machine as a stored value. -/
def toJson (m : Machine) : Json :=
  .object
    [("flags", m.flags.toJson),
      ("mem", m.memory.toJson),
      ("screen", m.screen.toJson),
      ("stack", .ofList (fun a => .ofNat a.toNat) m.stack.reverse),
      ("pc", .ofNat m.pc.toNat),
      ("i", .ofNat m.index.toNat),
      ("v", .ofList (fun b => .ofNat b.toNat) m.registers.toList),
      ("delay", .ofNat m.delay.toNat),
      ("sound", .ofNat m.sound.toNat),
      ("keys", .ofList .bool m.keys.toList),
      ("waitreg", .ofNat m.keyTarget.toNat),
      ("cycle", .ofNat m.cycles.toNat)]

/-- The machine that a stored value stands for. -/
def ofJson? (v : Json) : Option Machine := do
  let flags ← (v.field? "flags").bind Flags.ofJson?
  let memory ← (v.field? "mem").bind Memory.ofJson?
  let screen ← (v.field? "screen").bind Screen.ofJson?
  let stack ← (v.field? "stack").bind (Json.list? Json.word16?)
  let pc ← (v.field? "pc").bind Json.word16?
  let index ← (v.field? "i").bind Json.word16?
  let registers ← ((v.field? "v").bind (Json.list? Json.byte?)).bind (vector? 16)
  let delay ← (v.field? "delay").bind Json.byte?
  let sound ← (v.field? "sound").bind Json.byte?
  let keys ← ((v.field? "keys").bind (Json.list? Json.bool?)).bind (vector? 16)
  let keyTarget ← (v.field? "waitreg").bind Json.word64?
  let cycles ← (v.field? "cycle").bind Json.word64?
  pure ⟨flags, memory, screen, stack.reverse, pc, index, registers, delay, sound, keys, keyTarget,
    cycles⟩

/-- **A stored machine reads back.** -/
theorem ofJson?_toJson (m : Machine) : ofJson? m.toJson = some m := by
  simp [ofJson?, toJson, Json.field?, Json.fieldOf?, Flags.ofJson?_toJson, Memory.ofJson?_toJson,
    Screen.ofJson?_toJson, Json.list?_ofList Json.word16?_ofNat,
    Json.list?_ofList Json.byte?_ofNat, Json.list?_ofList Json.bool?_bool, vector?_toList]

end Machine

end Chip8
