import Chip8.Text.Numeral

/-!
# Taking columns and lists apart

A text that is set to the left of a column can be told from the column, as long as it has no blank
in it, and texts that are strung together with commas can be told from the whole, as long as none of
them is empty or has a comma in it.

## What is here

* `padRight_inj` — texts without blanks in columns of one width.
* `length_padRight` — a text that is not too long for its column fills it.
* `intercalate_inj` — lists of texts without commas.
-/

set_option autoImplicit false

namespace Chip8.Text

variable {width : Nat} {s t : String}

/-! ## Columns -/

theorem takeWhile_padRight (h : ' ' ∉ s.toList) (width : Nat) :
    (padRight width s).toList.takeWhile (· ≠ ' ') = s.toList := by
  rw [toList_padRight, List.rightpad, List.takeWhile_append_of_pos, List.takeWhile_replicate]
  · exact List.append_nil _
  · exact fun c hc => decide_eq_true fun hblank => h (hblank ▸ hc)

/-- **A text without blanks is known from its column.** -/
theorem padRight_inj (hs : ' ' ∉ s.toList) (ht : ' ' ∉ t.toList)
    (h : padRight width s = padRight width t) : s = t := by
  rw [← String.toList_inj, ← takeWhile_padRight hs width, ← takeWhile_padRight ht width, h]

theorem length_padRight (h : s.toList.length ≤ width) :
    (padRight width s).toList.length = width := by
  rw [toList_padRight, List.rightpad, List.length_append, List.length_replicate]
  omega

/-! ## Lists -/

/-- A text that can stand in a list. -/
def Listable (s : String) : Prop := s ≠ "" ∧ ',' ∉ s.toList

instance : Decidable (Listable s) := inferInstanceAs (Decidable (_ ∧ _))

theorem Listable.append (h : Listable s) (ht : ',' ∉ t.toList) : Listable (s ++ t) := by
  refine ⟨fun hempty => h.1 (String.append_eq_empty_iff.1 hempty).1, fun hcomma => ?_⟩
  rw [String.toList_append, List.mem_append] at hcomma
  exact hcomma.elim h.2 ht

/-- With a blank in front of the first item, too, only the commas are left between them. -/
theorem cons_intercalate {items : List (List Char)} (h : items ≠ []) :
    ' ' :: [',', ' '].intercalate items = [','].intercalate (items.map (' ' :: ·)) := by
  induction items with
  | nil => exact absurd rfl h
  | cons item rest ih =>
    cases rest with
    | nil => simp
    | cons next rest =>
      rw [List.intercalate_cons_cons, List.map_cons, List.map_cons, List.intercalate_cons_cons,
        ← List.map_cons, ← ih (List.cons_ne_nil next rest)]
      simp

theorem splitOn_intercalate {items : List String} (hne : items ≠ [])
    (h : ∀ s ∈ items, ',' ∉ s.toList) :
    (' ' :: (", ".intercalate items).toList).splitOn ',' = items.map (' ' :: ·.toList) := by
  rw [String.toList_intercalate, show ", ".toList = [',', ' '] from rfl,
    cons_intercalate (mt List.map_eq_nil_iff.1 hne), List.map_map,
    List.splitOn_intercalate ',' ?_ (mt List.map_eq_nil_iff.1 hne)]
  · rfl
  · intro item hitem hcomma
    obtain ⟨s, hs, rfl⟩ := List.mem_map.1 hitem
    rcases List.mem_cons.1 hcomma with hblank | hcomma
    · exact absurd hblank (by decide)
    · exact h s hs hcomma

theorem intercalate_ne_empty {items : List String} (hne : items ≠ [])
    (h : ∀ s ∈ items, s ≠ "") : ", ".intercalate items ≠ "" := by
  match items with
  | [] => exact absurd rfl hne
  | [s] =>
    rw [String.intercalate_singleton]
    exact h s List.mem_cons_self
  | s :: t :: rest =>
    rw [String.intercalate_cons_cons]
    intro hempty
    exact h s List.mem_cons_self
      (String.append_eq_empty_iff.1 (String.append_eq_empty_iff.1 hempty).1).1

/-- **Items without commas are known from their list.** -/
theorem intercalate_inj {items items' : List String} (h : ∀ s ∈ items, Listable s)
    (h' : ∀ s ∈ items', Listable s) (heq : ", ".intercalate items = ", ".intercalate items') :
    items = items' := by
  by_cases hne : items = []
  · by_cases hne' : items' = []
    · rw [hne, hne']
    · rw [hne, String.intercalate_nil] at heq
      exact absurd heq.symm (intercalate_ne_empty hne' fun s hs => (h' s hs).1)
  · by_cases hne' : items' = []
    · rw [hne', String.intercalate_nil] at heq
      exact absurd heq (intercalate_ne_empty hne fun s hs => (h s hs).1)
    · have hsplit := splitOn_intercalate hne fun s hs => (h s hs).2
      rw [heq, splitOn_intercalate hne' fun s hs => (h' s hs).2] at hsplit
      have hitems : items' = items :=
        (List.map_inj_right fun s t hst => String.toList_inj.1 (List.cons.inj hst).2).1 hsplit
      exact hitems.symm

end Chip8.Text
