import Chip8.Snapshot.Instruction
import Chip8.Platform
import Chip8.Flags

/-!
# Stored platforms, dialects and flags

A platform is stored by its label, a dialect and the control flags as objects.  Fields that do not
belong are passed over when reading; a field that is missing or of another kind makes the whole
value unreadable.

## What is here

* `toJson` and `ofJson?` of `Platform`, `Dialect` and `Flags`, each with the law that what is
  written reads back.
-/

set_option autoImplicit false

namespace Chip8

/-! ## Platforms -/

/-- The platform as a stored value. -/
def Platform.toJson (p : Platform) : Json := .text p.label

/-- The platform that a stored value stands for.  Only labels count here, not the names that
people use. -/
def Platform.ofJson? (v : Json) : Option Platform := do
  let name ← v.name?
  [chip8, superChip].find? fun p => p.label == name

theorem Platform.ofJson?_toJson (p : Platform) : ofJson? p.toJson = some p := by
  cases p <;> decide

/-! ## Dialects -/

namespace Dialect

/-- The dialect as a stored value. -/
def toJson (d : Dialect) : Json :=
  .object [("bin_ops", .bool d.keepsFlag), ("shift", .bool d.shiftsInPlace),
    ("dma_inc", .bool d.keepsIndex), ("jump_vx", .bool d.jumpsByNamed)]

/-- The dialect that a stored value stands for. -/
def ofJson? (v : Json) : Option Dialect := do
  let keepsFlag ← (v.field? "bin_ops").bind Json.bool?
  let shiftsInPlace ← (v.field? "shift").bind Json.bool?
  let keepsIndex ← (v.field? "dma_inc").bind Json.bool?
  let jumpsByNamed ← (v.field? "jump_vx").bind Json.bool?
  pure { keepsFlag, shiftsInPlace, keepsIndex, jumpsByNamed }

theorem ofJson?_toJson (d : Dialect) : ofJson? d.toJson = some d := by
  simp [ofJson?, toJson, Json.field?, Json.fieldOf?]

end Dialect

/-! ## Flags -/

namespace Flags

/-- The flags as a stored value. -/
def toJson (f : Flags) : Json :=
  .object [("pause", .bool f.pause), ("keypause", .bool f.keyWait), ("quirks", f.dialect.toJson)]

/-- The flags that a stored value stands for. -/
def ofJson? (v : Json) : Option Flags := do
  let pause ← (v.field? "pause").bind Json.bool?
  let keyWait ← (v.field? "keypause").bind Json.bool?
  let dialect ← (v.field? "quirks").bind Dialect.ofJson?
  pure { pause, keyWait, dialect }

theorem ofJson?_toJson (f : Flags) : ofJson? f.toJson = some f := by
  simp [ofJson?, toJson, Json.field?, Json.fieldOf?, Dialect.ofJson?_toJson]

end Flags

end Chip8
