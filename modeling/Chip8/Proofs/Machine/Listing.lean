import Chip8.Machine.Host
import Chip8.Proofs.Text.Fields

/-!
# What a listing of the registers tells about a machine

A listing shows numbers with text between them: some with a least number of digits, which they may
exceed, some without, and one set to the right of a column.  Every one of them can be read back, so
machines with the same listing agree in everything that is listed.  What is not listed, such as
memory, the screen and what stands on the stack, may still differ.

## What is here

* `registerListing_append_inj`, `registers_append_inj` — the registers are known from
  their part of a listing.
* `listing_eq_iff` — machines with the same listing.
* `result_dump_eq_iff` — the same of a dump.
-/

set_option autoImplicit false

namespace Chip8.Machine

open Text

variable {m m' : Machine} {t t' : String}

/-! ## Registers -/

theorem registerListing_append_inj (k : Nat) {b b' : UInt8} :
    registerListing k b ++ t = registerListing k b' ++ t' ↔ b = b' ∧ t = t' := by
  have hblank : Separates " " := ⟨' ', rfl, rfl⟩
  simp only [registerListing, String.append_assoc, String.append_right_inj, hex_append_inj hblank,
    UInt8.toNat_inj]

/-- The values of registers, which are numbered from `k` on, are known from the text. -/
theorem join_registerListing_append_inj {bs bs' : List UInt8} (hlength : bs.length = bs'.length)
    (k : Nat) :
    String.join (bs.mapIdx fun j b => registerListing (j + k) b) ++ t =
        String.join (bs'.mapIdx fun j b => registerListing (j + k) b) ++ t' ↔
      bs = bs' ∧ t = t' := by
  induction bs generalizing bs' k with
  | nil =>
    rw [List.eq_nil_of_length_eq_zero hlength.symm]
    simp
  | cons b bs ih =>
    cases bs' with
    | nil => exact absurd hlength (by simp)
    | cons b' bs' =>
      have hrest : bs.length = bs'.length := Nat.succ.inj hlength
      simp only [List.mapIdx_cons, String.join_cons, String.append_assoc,
        registerListing_append_inj,
        Nat.add_assoc, Nat.add_comm 1 k, ih hrest (k + 1), List.cons.injEq, and_assoc]

theorem registers_append_inj {bs bs' : Vector UInt8 16} :
    String.join (bs.toList.mapIdx registerListing) ++ t =
        String.join (bs'.toList.mapIdx registerListing) ++ t' ↔
      bs = bs' ∧ t = t' := by
  have hlength : bs.toList.length = bs'.toList.length := by
    rw [Vector.length_toList, Vector.length_toList]
  rw [← Vector.toList_inj]
  exact join_registerListing_append_inj hlength 0

/-! ## The whole listing -/

/-- **Machines with the same listing agree in what is listed.** -/
theorem listing_eq_iff :
    m.listing = m'.listing ↔
      m.pc = m'.pc ∧ m.stack.length = m'.stack.length ∧ m.index = m'.index ∧
        m.registers = m'.registers ∧ m.delay = m'.delay ∧ m.sound = m'.sound ∧
        m.cycles = m'.cycles := by
  have hstack : Separates ", SP: " := ⟨',', rfl, rfl⟩
  have hindex : Separates ", I: " := ⟨',', rfl, rfl⟩
  have hbreak : Separates "\n" := ⟨'\n', rfl, rfl⟩
  have hsound : Separates ", SND: " := ⟨',', rfl, rfl⟩
  have hcycles : Separates ", CYC: " := ⟨',', rfl, rfl⟩
  unfold listing
  -- field after field, from the left: what stands in front is the same, and a separator follows
  simp only [String.append_assoc, String.append_right_inj, hex_append_inj hstack,
    hex_append_inj hindex, hex_append_inj hbreak, registers_append_inj, decimal_append_inj hsound,
    decimal_append_inj hcycles, padLeft_decimal_inj, UInt16.toNat_inj, UInt8.toNat_inj,
    UInt64.toNat_inj]

/-- **Dumps can be compared in place of machines.**  Two machines answer the same when
their registers are dumped iff they agree on the program counter, the number of return
addresses, the index, all sixteen registers, both timers and the number of cycles, whatever
the size of these numbers. -/
theorem result_dump_eq_iff (m m' : Machine) :
    m.dump.result = m'.dump.result ↔
      m.pc = m'.pc ∧ m.stack.length = m'.stack.length ∧ m.index = m'.index ∧
        m.registers = m'.registers ∧ m.delay = m'.delay ∧ m.sound = m'.sound ∧
        m.cycles = m'.cycles := by
  rw [dump, dump]
  exact listing_eq_iff

end Chip8.Machine
