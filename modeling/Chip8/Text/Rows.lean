/-!
# Cutting a list into rows

Memory and screen are shown row by row.  A row holds a fixed number of items, except that the last
one holds what is left.

## What is here

* `rows k xs` — the items of `xs` in rows of `k`.
* `flatten_rows` — the rows hold the items in order, so nothing is lost.
-/

set_option autoImplicit false

namespace Chip8.Text

/-- The items in rows of `k`; there are no rows of no items. -/
def rows {α : Type} (k : Nat) (xs : List α) : List (List α) :=
  if xs = [] ∨ k = 0 then [] else xs.take k :: rows k (xs.drop k)
termination_by xs.length
decreasing_by
  rename_i h
  have hx : 0 < xs.length := List.length_pos_iff.2 fun e => h (.inl e)
  have hk : k ≠ 0 := fun e => h (.inr e)
  rw [List.length_drop]
  omega

theorem rows_nil {α : Type} (k : Nat) : rows k ([] : List α) = [] := by
  rw [rows, if_pos (.inl rfl)]

theorem rows_of_ne_nil {α : Type} {k : Nat} {xs : List α} (hx : xs ≠ []) (hk : 0 < k) :
    rows k xs = xs.take k :: rows k (xs.drop k) := by
  rw [rows, if_neg]
  rintro (h | h)
  · exact hx h
  · omega

/-- **Cutting into rows loses nothing.** -/
theorem flatten_rows {α : Type} {k : Nat} (hk : 0 < k) (xs : List α) :
    (rows k xs).flatten = xs := by
  induction hn : xs.length using Nat.strongRecOn generalizing xs with
  | _ n ih =>
    by_cases hx : xs = []
    · rw [hx, rows_nil, List.flatten_nil]
    · have hpos := List.length_pos_iff.2 hx
      rw [rows_of_ne_nil hx hk, List.flatten_cons,
        ih (xs.drop k).length (by rw [List.length_drop]; omega) (xs.drop k) rfl,
        List.take_append_drop]

end Chip8.Text
