/-
  ImageIntake.Proofs.Text.DecimalDigit

  What a decimal digit is: it stands at most nine places behind the zero of its script
  (`digitValue?_eq_some_iff`).  No two scripts share a digit, as the list of their zeros
  shows (`digitZeros_ascending`), so that a digit has one value.
-/

import Mathlib.Tactic.SplitIfs
import ImageIntake.Proofs.Text.Ascii
import ImageIntake.Proofs.Text.RangeTable
import ImageIntake.Text.DecimalDigit

namespace ImageIntake.Text

/-- Whether a character is a decimal digit, of some script, with this value. -/
def IsDigitOf (c : Char) (n : Nat) : Prop :=
  n ≤ 9 ∧ ∃ origin ∈ digitZeros, c.toNat = origin + n

/-! ## The zeros -/

theorem digitZeros_ascending : digitZeros.Pairwise fun a b => a + 10 ≤ b := by
  unfold digitZeros
  repeat rw [tableWords_ofList_cons]
  decide +kernel

/-- In ASCII there is one zero only. -/
theorem digitZeros_ascii : ∀ origin ∈ digitZeros, origin = 0x30 ∨ 0x80 ≤ origin := by
  unfold digitZeros
  repeat rw [tableWords_ofList_cons]
  decide +kernel

theorem mem_digitZeros_ascii : 0x30 ∈ digitZeros := by
  unfold digitZeros
  repeat rw [tableWords_ofList_cons]
  decide +kernel

/-- A code point has one place behind one zero. -/
theorem place_unique {a b m n : Nat} (h_a : a ∈ digitZeros) (h_b : b ∈ digitZeros) (h_m : m ≤ 9)
    (h_n : n ≤ 9) (h : a + m = b + n) : m = n := by
  obtain ⟨i, h_i, rfl⟩ := List.mem_iff_getElem.mp h_a
  obtain ⟨j, h_j, rfl⟩ := List.mem_iff_getElem.mp h_b
  have h_apart := List.pairwise_iff_getElem.mp digitZeros_ascending
  rcases Nat.lt_trichotomy i j with h_lt | rfl | h_gt
  · have h_before := h_apart i j h_i h_j h_lt
    omega
  · exact Nat.add_left_cancel h
  · have h_behind := h_apart j i h_j h_i h_gt
    omega

/-! ## Digits -/

theorem isDigitOf_of_digitValue? {c : Char} {n : Nat} (h : digitValue? c = some n) :
    IsDigitOf c n := by
  unfold digitValue? at h
  split_ifs at h with h_ascii h_digit
  · rw [isDigit_iff] at h_digit
    have h_value : c.toNat - 0x30 = n := Option.some.inj h
    exact ⟨by omega, 0x30, mem_digitZeros_ascii, by omega⟩
  · obtain ⟨origin, h_found, rfl⟩ := Option.map_eq_some_iff.mp h
    have h_range := List.find?_some h_found
    simp only [Bool.and_eq_true, decide_eq_true_eq] at h_range
    exact ⟨by omega, origin, List.mem_of_find?_eq_some h_found, by omega⟩

theorem IsDigitOf.isSome {c : Char} {n : Nat} (h : IsDigitOf c n) :
    (digitValue? c).isSome = true := by
  obtain ⟨h_n, origin, h_origin, h_code⟩ := h
  unfold digitValue?
  rcases digitZeros_ascii origin h_origin with rfl | h_beyond
  · rw [if_pos (by omega), if_pos ((isDigit_iff c).mpr (by omega))]
    rfl
  · rw [if_neg (by omega), Option.isSome_map, List.find?_isSome]
    refine ⟨origin, h_origin, ?_⟩
    simp only [Bool.and_eq_true, decide_eq_true_eq]
    omega

/-- The digits are those of the scripts, and the value of one is its place behind the zero. -/
theorem digitValue?_eq_some_iff {c : Char} {n : Nat} :
    digitValue? c = some n ↔ IsDigitOf c n := by
  refine ⟨isDigitOf_of_digitValue?, fun h => ?_⟩
  obtain ⟨m, h_m⟩ := Option.isSome_iff_exists.mp h.isSome
  obtain ⟨h_le, a, h_a, h_place⟩ := isDigitOf_of_digitValue? h_m
  obtain ⟨h_n, b, h_b, h_code⟩ := h
  rw [h_m, place_unique h_a h_b h_le h_n (h_place.symm.trans h_code)]

theorem IsDigitOf.unique {c : Char} {m n : Nat} (h_m : IsDigitOf c m) (h_n : IsDigitOf c n) :
    m = n := by
  rw [← digitValue?_eq_some_iff] at h_m h_n
  exact Option.some.inj (h_m.symm.trans h_n)

end ImageIntake.Text
