/-
  ImageIntake.Proofs.Json.Fields

  Fields that were merged: every key of either side stands once (`nodup_mergeFields`), with
  the value it was given last (`lookup_mergeFields`).
-/

import Mathlib.Data.List.Nodup
import ImageIntake.Json.Value

namespace ImageIntake.Json

variable {α β : Type}

/-! ## One field -/

theorem lookup_setField (fields : List (Wording × α)) (key : Wording) (value : α) (other : Wording) :
    (setField fields key value).lookup other =
      if other = key then some value else fields.lookup other := by
  induction fields with
  | nil =>
    rw [setField, List.lookup_cons]
    by_cases h_other : other = key
    · rw [if_pos h_other, h_other, beq_self_eq_true]
    · rw [if_neg h_other, beq_false_of_ne h_other]
  | cons field rest ih =>
    obtain ⟨k, v⟩ := field
    rw [setField]
    by_cases h_key : k = key
    · rw [if_pos h_key, h_key, List.lookup_cons, List.lookup_cons]
      by_cases h_other : other = key
      · rw [if_pos h_other, h_other, beq_self_eq_true]
      · rw [if_neg h_other, beq_false_of_ne h_other]
    · rw [if_neg h_key, List.lookup_cons, List.lookup_cons, ih]
      by_cases h_other : other = k
      · rw [h_other, beq_self_eq_true]
        exact (if_neg h_key).symm
      · rw [beq_false_of_ne h_other]

theorem keys_setField (fields : List (Wording × α)) (key : Wording) (value : α) :
    (setField fields key value).map Prod.fst =
      if key ∈ fields.map Prod.fst then fields.map Prod.fst else fields.map Prod.fst ++ [key] := by
  induction fields with
  | nil => rfl
  | cons field rest ih =>
    obtain ⟨k, v⟩ := field
    rw [setField]
    by_cases h_key : k = key
    · simp [h_key]
    · have h_iff : key ∈ k :: rest.map Prod.fst ↔ key ∈ rest.map Prod.fst := by
        rw [List.mem_cons, or_iff_right fun h_eq => h_key h_eq.symm]
      rw [if_neg h_key, List.map_cons, List.map_cons, ih]
      simp only [h_iff]
      split <;> rfl

theorem nodup_setField {fields : List (Wording × α)} (h : (fields.map Prod.fst).Nodup) (key : Wording)
    (value : α) : ((setField fields key value).map Prod.fst).Nodup := by
  rw [keys_setField]
  split
  · exact h
  case isFalse h_not =>
    refine h.append (List.nodup_singleton key) fun k h_mem h_key => h_not ?_
    rwa [← List.mem_singleton.mp h_key]

theorem setField_ne_nil (fields : List (Wording × α)) (key : Wording) (value : α) :
    setField fields key value ≠ [] := by
  cases fields with
  | nil => exact List.cons_ne_nil _ _
  | cons field rest =>
    rw [setField]
    split <;> exact List.cons_ne_nil _ _

theorem mem_setField {fields : List (Wording × α)} {key : Wording} {value : α} {field : Wording × α}
    (h : field ∈ setField fields key value) : field ∈ fields ∨ field = (key, value) := by
  induction fields with
  | nil => exact .inr (List.mem_singleton.mp h)
  | cons first rest ih =>
    obtain ⟨k, v⟩ := first
    rw [setField] at h
    split at h
    · rename_i h_key
      rcases List.mem_cons.mp h with rfl | h_rest
      · exact .inr (by rw [h_key])
      · exact .inl (List.mem_cons_of_mem _ h_rest)
    · rcases List.mem_cons.mp h with rfl | h_rest
      · exact .inl List.mem_cons_self
      · exact (ih h_rest).imp_left (List.mem_cons_of_mem _)

/-! ## Several fields -/

/-- Of equal keys the one that is merged in counts. -/
theorem lookup_mergeFields (fields : List (Wording × α)) {more : List (Wording × α)}
    (h : (more.map Prod.fst).Nodup) (key : Wording) :
    (mergeFields fields more).lookup key = (more.lookup key).or (fields.lookup key) := by
  induction more generalizing fields with
  | nil => rfl
  | cons field rest ih =>
    obtain ⟨k, v⟩ := field
    rw [List.map_cons, List.nodup_cons] at h
    show (mergeFields (setField fields k v) rest).lookup key = _
    rw [ih _ h.2, lookup_setField, List.lookup_cons]
    by_cases h_key : key = k
    · have h_none : rest.lookup key = none := by
        rw [List.lookup_eq_none_iff]
        intro p h_mem
        rw [bne_iff_ne, h_key]
        exact fun h_eq => h.1 (List.mem_map.mpr ⟨p, h_mem, h_eq.symm⟩)
      rw [if_pos h_key, h_none, h_key, beq_self_eq_true]
      rfl
    · rw [if_neg h_key, beq_false_of_ne h_key]

/-- No key stands twice. -/
theorem nodup_mergeFields {fields : List (Wording × α)} (h : (fields.map Prod.fst).Nodup)
    (more : List (Wording × α)) : ((mergeFields fields more).map Prod.fst).Nodup := by
  induction more generalizing fields with
  | nil => exact h
  | cons field rest ih => exact ih (nodup_setField h field.1 field.2)

theorem mergeFields_ne_nil {fields : List (Wording × α)} (h : fields ≠ [])
    (more : List (Wording × α)) : mergeFields fields more ≠ [] := by
  induction more generalizing fields with
  | nil => exact h
  | cons field rest ih => exact ih (setField_ne_nil fields field.1 field.2)

/-- Every field comes from one side or the other. -/
theorem mem_mergeFields {fields more : List (Wording × α)} {field : Wording × α}
    (h : field ∈ mergeFields fields more) : field ∈ fields ∨ field ∈ more := by
  induction more generalizing fields with
  | nil => exact .inl h
  | cons first rest ih =>
    rcases ih h with h_fields | h_rest
    · refine (mem_setField h_fields).imp_right fun h_eq => ?_
      rw [h_eq]
      exact List.mem_cons_self
    · exact .inr (List.mem_cons_of_mem _ h_rest)

/-! ## Values of fields -/

theorem lookup_map_values (f : Wording → α → β) (fields : List (Wording × α)) (key : Wording) :
    (fields.map fun (k, v) => (k, f k v)).lookup key = (fields.lookup key).map (f key) := by
  induction fields with
  | nil => rfl
  | cons field rest ih =>
    rw [List.map_cons, List.lookup_cons, List.lookup_cons, ih]
    by_cases h_key : key = field.1
    · rw [h_key, beq_self_eq_true]
      rfl
    · rw [beq_false_of_ne h_key]

end ImageIntake.Json
