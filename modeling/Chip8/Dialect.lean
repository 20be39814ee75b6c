import Chip8.Text.Record

/-!
# Dialects of the instruction set

Interpreters disagree about four details of the instruction set, and programs rely on one answer
or the other.  A dialect is a choice in each of the four.

## What is here

* `Dialect` — the four choices, in the order in which two dialects are compared.
* `Dialect.uniform` — the same answer to all four.
* `Dialect.inspect` — the choices as a one-line record.
-/

set_option autoImplicit false

namespace Chip8

open Text

/-- A choice in each detail on which interpreters disagree.  The choices stand in the order in
which they count when two dialects are compared; `false` comes before `true`. -/
structure Dialect where
  /-- Bitwise operations leave the flag register alone; otherwise they clear it. -/
  keepsFlag : Bool := false
  /-- Shifts take the register they change; otherwise they take the second one. -/
  shiftsInPlace : Bool := false
  /-- Block transfers leave the index alone; otherwise they move it past the block. -/
  keepsIndex : Bool := false
  /-- Indexed jumps add the register named by the address; otherwise the first register. -/
  jumpsByNamed : Bool := false
  deriving DecidableEq, Repr, Ord

namespace Dialect

/-- The dialect with the same answer to all four questions. -/
def uniform (b : Bool) : Dialect := ⟨b, b, b, b⟩

/-- The choices as a one-line record. -/
def inspect (d : Dialect) : String :=
  record "Quirks"
    [("bin_ops", truth d.keepsFlag), ("shift", truth d.shiftsInPlace),
      ("dma_inc", truth d.keepsIndex), ("jump_vx", truth d.jumpsByNamed)]

end Dialect

end Chip8
