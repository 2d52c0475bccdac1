/-
  ImageIntake.Proofs.Text.Splitting

  Lists that are split at marks.  The parts hold what the list holds, but for the marks
  (`of_mem_splitOnP`), and splitting goes on behind a part as if
  it had not been interrupted (`splitOnP_append`).  A text that is split at the last of a
  mark only is taken apart from its end (`reverse_takeWhile_at`).  There is one way only to
  split at the first and at the last of a mark (`eq_of_split_first`, `eq_of_split_last`).
-/

import Mathlib.Data.List.Basic
import Mathlib.Data.List.TakeWhile

namespace ImageIntake.Text

/-! ## Parts -/

section

variable {α : Type} {p : α → Bool}

/-- The parts hold what the list holds, but for what it is split at. -/
theorem of_mem_splitOnP {xs part : List α} (h_part : part ∈ xs.splitOnP p) {x : α}
    (h_mem : x ∈ part) : x ∈ xs ∧ p x = false := by
  induction xs generalizing part with
  | nil =>
    rw [List.splitOnP_nil, List.mem_singleton] at h_part
    rw [h_part] at h_mem
    cases h_mem
  | cons first rest ih =>
    rw [List.splitOnP_cons_eq_if_modifyHead] at h_part
    cases h_first : p first with
    | true =>
      rw [if_pos h_first] at h_part
      rcases List.mem_cons.mp h_part with rfl | h_part
      · cases h_mem
      · exact (ih h_part h_mem).imp_left (List.mem_cons_of_mem first)
    | false =>
      rw [if_neg (Bool.eq_false_iff.mp h_first)] at h_part
      obtain ⟨head, tail, h_parts⟩ := List.exists_cons_of_ne_nil (List.splitOnP_ne_nil p rest)
      rw [h_parts] at ih
      rw [h_parts, List.modifyHead_cons] at h_part
      rcases List.mem_cons.mp h_part with rfl | h_part
      · rcases List.mem_cons.mp h_mem with rfl | h_mem
        · exact ⟨List.mem_cons_self, h_first⟩
        · exact (ih List.mem_cons_self h_mem).imp_left (List.mem_cons_of_mem first)
      · exact (ih (List.mem_cons_of_mem head h_part) h_mem).imp_left (List.mem_cons_of_mem first)

/-- Splitting goes on behind the last part. -/
theorem splitOnP_append (xs ys : List α) :
    (xs ++ ys).splitOnP p =
      (xs.splitOnP p).dropLast ++ ((xs.splitOnP p).getLast?.getD [] ++ ys).splitOnP p := by
  induction xs with
  | nil => rfl
  | cons x xs ih =>
    obtain ⟨head, tail, h_parts⟩ := List.exists_cons_of_ne_nil (List.splitOnP_ne_nil p xs)
    rw [List.cons_append, List.splitOnP_cons_eq_if_modifyHead, List.splitOnP_cons_eq_if_modifyHead,
      ih, h_parts]
    cases h_x : p x with
    | true => rfl
    | false =>
      cases tail with
      | nil =>
        -- The last part is the first as well, so that `x` is carried along.
        show ((head ++ ys).splitOnP p).modifyHead (x :: ·) = (x :: (head ++ ys)).splitOnP p
        rw [List.splitOnP_cons_eq_if_modifyHead, if_neg (Bool.eq_false_iff.mp h_x)]
      | cons second others => rfl

end

/-! ## Putting together -/

theorem mem_intercalate_iff {c mark : Char} {parts : List (List Char)} (h : c ≠ mark) :
    c ∈ [mark].intercalate parts ↔ ∃ part ∈ parts, c ∈ part := by
  induction parts with
  | nil => simp
  | cons first rest ih =>
    cases rest with
    | nil => simp
    | cons second rest =>
      rw [List.intercalate_cons_cons, List.mem_append, List.mem_append, ih, List.mem_singleton]
      simp [h]

/-! ## The last of a mark -/

theorem ne_of_not_mem {mark : Char} {cs : List Char} (h : mark ∉ cs) :
    ∀ c ∈ cs, decide (c ≠ mark) = true := by
  intro c h_mem
  apply decide_eq_true
  rintro rfl
  exact h h_mem

theorem exists_last {mark : Char} {cs : List Char} (h : mark ∈ cs) :
    ∃ before after, cs = before ++ mark :: after ∧ mark ∉ after := by
  obtain ⟨after, before, h_split, h_last⟩ := List.eq_append_cons_of_mem (List.mem_reverse.mpr h)
  refine ⟨before.reverse, after.reverse, ?_, ?_⟩
  · rw [← List.reverse_reverse cs, h_split]
    simp
  · exact fun h_mem => h_last (List.mem_reverse.mp h_mem)

/-- What stands behind the last of a mark. -/
theorem reverse_takeWhile_at (before : List Char) {mark : Char} {after : List Char}
    (h : mark ∉ after) :
    ((before ++ mark :: after).reverse.takeWhile (· ≠ mark)).reverse = after := by
  have h_reach : ∀ c ∈ after.reverse, decide (c ≠ mark) = true :=
    ne_of_not_mem fun h_mem => h (List.mem_reverse.mp h_mem)
  rw [List.reverse_append, List.reverse_cons, List.append_assoc,
    List.takeWhile_append_of_pos h_reach]
  simp

/-! ## One way to split -/

theorem eq_of_split_first {mark : Char} {before before' after after' : List Char}
    (h_before : mark ∉ before) (h_before' : mark ∉ before')
    (h : before ++ mark :: after = before' ++ mark :: after') : before = before' ∧ after = after' := by
  rcases List.append_eq_append_iff.mp h with ⟨more, rfl, h_rest⟩ | ⟨more, rfl, h_rest⟩
  all_goals
    cases more with
    | nil =>
      cases h_rest
      exact ⟨by simp, rfl⟩
    | cons c more =>
      cases h_rest
      simp at h_before h_before'

theorem eq_of_split_last {mark : Char} {before before' after after' : List Char}
    (h_after : mark ∉ after) (h_after' : mark ∉ after')
    (h : before ++ mark :: after = before' ++ mark :: after') : before = before' ∧ after = after' := by
  have h_reverse : after.reverse ++ mark :: before.reverse =
      after'.reverse ++ mark :: before'.reverse := by
    simpa using congrArg List.reverse h
  have h_last {cs : List Char} (h_cs : mark ∉ cs) : mark ∉ cs.reverse :=
    fun h_mem => h_cs (List.mem_reverse.mp h_mem)
  obtain ⟨h_left, h_right⟩ := eq_of_split_first (h_last h_after) (h_last h_after') h_reverse
  exact ⟨List.reverse_injective h_right, List.reverse_injective h_left⟩

end ImageIntake.Text
