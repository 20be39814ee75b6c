import Mathlib.Data.List.Nodup
import Chip8.Json.Value

/-!
# Objects as records

An object is a list of labelled values, but the order of its fields means nothing, and a reader
passes over fields that it does not know.  This file says when two values are the same in spite of
that, what is left of a value when the fields that do not belong are removed, and when a reader is
faithful: what it has read is written as the same value again, up to those two things.

## What is here

* `Json.Distinct` — no object, at any depth, has two fields of one label.
* `Json.Same` — two values are the same but for the order of fields.
* `Json.pick` — an object with the fields that are known, each of them trimmed in turn.
* `Json.Faithful` — what is read is written as what was picked; `faithful_bool?` and so
  on, the readers of values without fields, and `same_pick`, how faithful readers of
  fields make one of objects.
-/

set_option autoImplicit false

namespace Chip8

namespace Json

/-! ## Values up to the order of fields -/

/-- No object in the value has two fields of one label. -/
inductive Distinct : Json → Prop
  | null : Distinct .null
  | bool (b : Bool) : Distinct (.bool b)
  | integer (n : Int) : Distinct (.integer n)
  | fraction (mantissa : Int) (places : Nat) : Distinct (.fraction mantissa places)
  | text (s : String) : Distinct (.text s)
  | list {items : List Json} (h : ∀ v ∈ items, Distinct v) : Distinct (.list items)
  | object {fields : List (String × Json)} (labels : (fields.map Prod.fst).Nodup)
      (values : ∀ f ∈ fields, Distinct f.2) : Distinct (.object fields)

attribute [simp] Distinct.null Distinct.bool Distinct.integer Distinct.fraction Distinct.text

@[simp] theorem distinct_list {items : List Json} :
    Distinct (.list items) ↔ ∀ v ∈ items, Distinct v := by
  refine ⟨fun h => ?_, .list⟩
  cases h
  assumption

@[simp] theorem distinct_object {fields : List (String × Json)} :
    Distinct (.object fields) ↔ (fields.map Prod.fst).Nodup ∧ ∀ f ∈ fields, Distinct f.2 := by
  refine ⟨fun h => ?_, fun h => .object h.1 h.2⟩
  cases h with
  | object labels values => exact ⟨labels, values⟩

/-- Two values are the same, or they are objects that have the same labels and, under each of
them, the same value. -/
inductive Same : Json → Json → Prop
  | refl (v : Json) : Same v v
  | object {fs gs : List (String × Json)} (labels : (fs.map Prod.fst).Perm (gs.map Prod.fst))
      (values : ∀ label v w, (label, v) ∈ fs → (label, w) ∈ gs → Same v w) :
      Same (.object fs) (.object gs)

/-- The object with those of its fields that are known, each with what its own function makes of it;
another value is left alone. -/
def pick (known : List (String × (Json → Json))) : Json → Json
  | .object fields =>
    .object (fields.filterMap fun f => (known.lookup f.1).map fun trim => (f.1, trim f.2))
  | other => other

/-! ## Looking up a label -/

variable {fields : List (String × Json)} {label : String} {v w : Json}

theorem mem_of_fieldOf? (h : fieldOf? label fields = some v) : (label, v) ∈ fields := by
  induction fields with
  | nil => simp [fieldOf?] at h
  | cons f rest ih =>
    rw [fieldOf?] at h
    split at h
    · rename_i heq
      cases h
      simp [← heq]
    · exact List.mem_cons_of_mem _ (ih h)

/-- Without repeated labels there is one item under a label. -/
theorem eq_of_mem {α : Type} {fs : List (String × α)} (hfs : (fs.map Prod.fst).Nodup) {a b : α}
    (ha : (label, a) ∈ fs) (hb : (label, b) ∈ fs) : a = b := by
  have heq := List.inj_on_of_nodup_map hfs ha hb rfl
  exact congrArg Prod.snd heq

theorem mem_of_lookup {α : Type} {fs : List (String × α)} {a : α}
    (h : fs.lookup label = some a) : (label, a) ∈ fs := by
  obtain ⟨before, after, rfl, -⟩ := List.lookup_eq_some_iff.1 h
  simp

theorem lookup_isSome {α : Type} {fs : List (String × α)} :
    (fs.lookup label).isSome = true ↔ label ∈ fs.map Prod.fst := by
  simp [List.lookup_isSome_iff]

/-! ## Picking -/

variable {known : List (String × (Json → Json))}

/-- What is picked are the labels that are known. -/
theorem map_fst_pick (known : List (String × (Json → Json))) (fields : List (String × Json)) :
    (fields.filterMap fun f => (known.lookup f.1).map fun trim => (f.1, trim f.2)).map Prod.fst =
      (fields.map Prod.fst).filter fun label => (known.lookup label).isSome := by
  induction fields with
  | nil => rfl
  | cons f rest ih =>
    cases h : known.lookup f.1 with
    | none =>
      rw [List.filterMap_cons_none (by rw [h]; rfl), List.map_cons,
        List.filter_cons_of_neg (by rw [h]; decide), ih]
    | some trim =>
      rw [List.filterMap_cons_some (by rw [h]; rfl), List.map_cons, List.map_cons,
        List.filter_cons_of_pos (by rw [h]; rfl), ih]

/-- Under the label of `known` the fields have a value that trims to the one of `written`. -/
structure Holds (fields : List (String × Json)) (written : String × Json)
    (known : String × (Json → Json)) : Prop where
  /-- The written field has the known label. -/
  label : written.1 = known.1
  /-- The values. -/
  value : ∃ v, fieldOf? known.1 fields = some v ∧ Same written.2 (known.2 v)

variable {written : List (String × Json)}

theorem map_fst_of_holds (h : List.Forall₂ (Holds fields) written known) :
    written.map Prod.fst = known.map Prod.fst := by
  induction h with
  | nil => rfl
  | cons hf _ ih => rw [List.map_cons, List.map_cons, hf.label, ih]

theorem exists_of_holds (h : List.Forall₂ (Holds fields) written known)
    (hw : (label, w) ∈ written) :
    ∃ trim v, (label, trim) ∈ known ∧ (label, v) ∈ fields ∧ Same w (trim v) := by
  induction h with
  | nil => simp at hw
  | @cons f k _ _ hf _ ih =>
    rcases List.mem_cons.1 hw with rfl | hw
    · obtain ⟨hlabel, v, hv, hsame⟩ := hf
      obtain ⟨l, trim⟩ := k
      cases hlabel
      exact ⟨trim, v, by simp, mem_of_fieldOf? hv, hsame⟩
    · obtain ⟨trim, v, hk, hv, hsame⟩ := ih hw
      exact ⟨trim, v, List.mem_cons_of_mem _ hk, hv, hsame⟩

/-- **A record of what is known is the object that was picked**, up to the order of its fields. -/
theorem same_pick (hd : Distinct (.object fields)) (hknown : (known.map Prod.fst).Nodup)
    (h : List.Forall₂ (Holds fields) written known) :
    Same (.object written) (pick known (.object fields)) := by
  have hfields := (distinct_object.1 hd).1
  have hlabels := map_fst_of_holds h
  refine .object ?_ ?_
  · rw [map_fst_pick, hlabels]
    refine (List.perm_ext_iff_of_nodup hknown (hfields.filter _)).2 fun label => ?_
    rw [List.mem_filter, lookup_isSome]
    refine ⟨fun hl => ⟨?_, hl⟩, And.right⟩
    rw [← hlabels] at hl
    obtain ⟨⟨_, w⟩, hw, rfl⟩ := List.mem_map.1 hl
    obtain ⟨_, v, -, hv, -⟩ := exists_of_holds h hw
    exact List.mem_map.2 ⟨_, hv, rfl⟩
  · intro label w b hw hb
    obtain ⟨⟨_, v⟩, hv, hb⟩ := List.mem_filterMap.1 hb
    obtain ⟨trim, htrim, heq⟩ := Option.map_eq_some_iff.1 hb
    cases heq
    obtain ⟨trim', v', hk, hv', hsame⟩ := exists_of_holds h hw
    rw [eq_of_mem hknown hk (mem_of_lookup htrim), eq_of_mem hfields hv' hv] at hsame
    exact hsame

/-! ## Faithful readers -/

/-- What `read` reads from a value without repeated labels, `write` writes as the value
that `trim` leaves of it. -/
def Faithful {α : Type} (read : Json → Option α) (write : α → Json) (trim : Json → Json) : Prop :=
  ∀ v a, v.Distinct → read v = some a → Same (write a) (trim v)

/-- A reader is faithful if it takes nothing but what is written. -/
theorem faithful_of_eq {α : Type} {read : Json → Option α} {write : α → Json}
    (h : ∀ v a, read v = some a → v = write a) : Faithful read write id := by
  intro v a _ hv
  rw [id_eq, h v a hv]
  exact .refl _

theorem eq_of_nat? {bound n : Nat} (h : nat? bound v = some n) : v = ofNat n ∧ n < bound := by
  unfold nat? at h
  split at h
  · rename_i k
    split at h
    · rename_i hk
      cases h
      exact ⟨rfl, hk⟩
    · cases h
  · cases h

theorem eq_of_bool? {b : Bool} (h : bool? v = some b) : v = .bool b := by
  unfold bool? at h
  split at h
  · cases h
    rfl
  · cases h

theorem eq_of_byte? {b : UInt8} (h : byte? v = some b) : v = ofNat b.toNat := by
  obtain ⟨n, hn, rfl⟩ := Option.map_eq_some_iff.1 h
  obtain ⟨rfl, hlt⟩ := eq_of_nat? hn
  rw [UInt8.toNat_ofNat', Nat.mod_eq_of_lt hlt]

theorem eq_of_word16? {w : UInt16} (h : word16? v = some w) : v = ofNat w.toNat := by
  obtain ⟨n, hn, rfl⟩ := Option.map_eq_some_iff.1 h
  obtain ⟨rfl, hlt⟩ := eq_of_nat? hn
  rw [UInt16.toNat_ofNat', Nat.mod_eq_of_lt hlt]

theorem eq_of_word64? {w : UInt64} (h : word64? v = some w) : v = ofNat w.toNat := by
  obtain ⟨n, hn, rfl⟩ := Option.map_eq_some_iff.1 h
  obtain ⟨rfl, hlt⟩ := eq_of_nat? hn
  rw [UInt64.toNat_ofNat', Nat.mod_eq_of_lt hlt]

/-- A list of items that are as they are written is as it is written. -/
theorem eq_of_list? {α : Type} {read : Json → Option α} {write : α → Json}
    (h : ∀ v a, read v = some a → v = write a) {as : List α} (hv : list? read v = some as) :
    v = .list (as.map write) := by
  unfold list? at hv
  split at hv
  · rename_i items
    congr 1
    induction items generalizing as with
    | nil =>
      cases hv
      rfl
    | cons item rest ih =>
      simp only [List.mapM_cons, Option.bind_eq_bind, Option.bind_eq_some_iff, Option.pure_def,
        Option.some.injEq] at hv
      obtain ⟨a, ha, as', has, rfl⟩ := hv
      rw [List.map_cons, h item a ha, ← ih has]
  · cases hv

theorem faithful_bool? : Faithful bool? .bool id := faithful_of_eq @eq_of_bool?

theorem faithful_byte? : Faithful byte? (fun b => ofNat b.toNat) id :=
  faithful_of_eq @eq_of_byte?

theorem faithful_word16? : Faithful word16? (fun w => ofNat w.toNat) id :=
  faithful_of_eq @eq_of_word16?

theorem faithful_word64? : Faithful word64? (fun w => ofNat w.toNat) id :=
  faithful_of_eq @eq_of_word64?

/-- A faithful reader of a field finds there what it writes. -/
theorem Faithful.holds {α : Type} {read : Json → Option α} {write : α → Json} {trim : Json → Json}
    (hf : Faithful read write trim) (hd : Distinct (.object fields)) {a : α}
    (hv : field? label (.object fields) = some v) (ha : read v = some a) :
    Holds fields (label, write a) (label, trim) :=
  ⟨rfl, v, hv, hf v a ((distinct_object.1 hd).2 _ (mem_of_fieldOf? hv)) ha⟩

/-- Only an object has fields. -/
theorem exists_of_field? (h : v.field? label = some w) : ∃ fields, v = .object fields := by
  cases v with
  | object fields => exact ⟨fields, rfl⟩
  | null | bool | integer | fraction | text | list => cases h

end Json

end Chip8
