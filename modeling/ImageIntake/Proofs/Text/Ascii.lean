/-
  ImageIntake.Proofs.Text.Ascii

  Facts about the characters of ASCII, found by looking at all of them
  (`ascii_of_all`), and what the lower case of ASCII comes to, character by character.
-/

import ImageIntake.Text.LetterCase

namespace ImageIntake.Text

/-- What holds of each of the 128 characters. -/
theorem ascii_of_all {P : Char → Prop} (h : ∀ n : Fin 0x80, P (Char.ofNat n.val)) {c : Char}
    (h_c : c.toNat < 0x80) : P c := by
  have h_char := h ⟨c.toNat, h_c⟩
  rw [Char.ofNat_toNat] at h_char
  exact h_char

/-! ## Letters and digits -/

theorem isUpper_iff (c : Char) : c.isUpper = true ↔ 0x41 ≤ c.toNat ∧ c.toNat ≤ 0x5A :=
  decide_eq_true_iff

theorem isLower_iff (c : Char) : c.isLower = true ↔ 0x61 ≤ c.toNat ∧ c.toNat ≤ 0x7A :=
  Bool.and_eq_true_iff.trans (and_congr decide_eq_true_iff decide_eq_true_iff)

theorem isDigit_iff (c : Char) : c.isDigit = true ↔ 0x30 ≤ c.toNat ∧ c.toNat ≤ 0x39 :=
  Char.isDigit_iff_toNat

theorem isAlphanum_iff (c : Char) :
    c.isAlphanum = true ↔ (c.isUpper = true ∨ c.isLower = true) ∨ c.isDigit = true :=
  Bool.or_eq_true_iff.trans (or_congr_left Bool.or_eq_true_iff)

theorem isAlphanum_lt {c : Char} (h : c.isAlphanum = true) : c.toNat < 0x80 := by
  rw [isAlphanum_iff, isUpper_iff, isLower_iff, isDigit_iff] at h
  omega

theorem not_isUpper_toLower {c : Char} (h : c.toNat < 0x80) : c.toLower.isUpper = false :=
  ascii_of_all (P := fun c => c.toLower.isUpper = false) (by decide +kernel) h

theorem not_isUpper_ofNat {code : Nat} (h : 0x5B ≤ code) : (Char.ofNat code).isUpper = false := by
  refine Bool.eq_false_iff.mpr fun h_upper => ?_
  rw [isUpper_iff] at h_upper
  by_cases h_valid : code.isValidChar
  · rw [Char.ofNat, dif_pos h_valid] at h_upper
    have h_code : (Char.ofNatAux code h_valid).toNat = code := rfl
    omega
  · rw [Char.ofNat, dif_neg h_valid] at h_upper
    exact absurd h_upper (by decide)

theorem toNat_ofNat {n : Nat} (h : n < 0x80) : (Char.ofNat n).toNat = n := by
  have h_all : ∀ n : Fin 0x80, (Char.ofNat n.val).toNat = n.val := by decide +kernel
  exact h_all ⟨n, h⟩

theorem toLower_of_not_isUpper {c : Char} (h : c.isUpper = false) : c.toLower = c := by
  rw [Bool.eq_false_iff, ne_eq, isUpper_iff] at h
  exact dif_neg h

theorem map_toLower {cs : List Char} (h : ∀ c ∈ cs, c.isUpper = false) :
    cs.map Char.toLower = cs :=
  (List.map_congr_left fun c h_mem => toLower_of_not_isUpper (h c h_mem)).trans (List.map_id cs)

theorem toList_asciiLower (s : String) : (asciiLower s).toList = s.toList.map Char.toLower :=
  String.toList_map

end ImageIntake.Text
