import Chip8.Dialect
import Chip8.Fault

/-!
# Platforms

A platform is a machine of history whose programs agree on a dialect.  Two are known, each under
several names; a name is taken without regard to the case of its letters.

## What is here

* `Platform` — the two platforms, the older one first.
* `Platform.dialect` — the dialect of a platform.
* `Platform.ofName` — the platform of a name given by a person.
* `Platform.label` — the one name under which a platform is stored and shown.
-/

set_option autoImplicit false

namespace Chip8

/-- A platform. -/
inductive Platform where
  /-- The first interpreter, of 1977. -/
  | chip8
  /-- The interpreter for graphing calculators and its successor. -/
  | superChip
  deriving DecidableEq, Repr, Ord, Inhabited

namespace Platform

/-- The older platform answers every question of a dialect with no, the later one with yes. -/
def dialect : Platform → Dialect
  | .chip8 => .uniform false
  | .superChip => .uniform true

/-- The name under which a platform is stored and shown. -/
def label : Platform → String
  | .chip8 => "Chip8"
  | .superChip => "SChip"

/-- The platform that a person means by `name`.  Only the letters A to Z are folded: no letter
outside them has a lowercase form that occurs in one of the names. -/
def ofName (name : String) : Except Fault Platform :=
  let folded := name.toLower
  if folded ∈ ["chip8", "chip-8", "vip"] then .ok .chip8
  else if folded ∈ ["schip", "superchip", "chip48", "chip-48"] then .ok .superChip
  else .error (.unknownPlatform name)

end Platform

end Chip8
