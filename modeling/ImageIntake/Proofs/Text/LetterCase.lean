/-
  ImageIntake.Proofs.Text.LetterCase

  Lower case holds no capital letter of ASCII.  The letters of ASCII become small, and no
  other character has one of their capitals in its lower-case form, as the table of these
  forms shows (`lowerRuns_image`); so no capital is left in a text (`not_isUpper_of_mem`).
-/

import ImageIntake.Proofs.Text.Ascii
import ImageIntake.Proofs.Text.RangeTable

namespace ImageIntake.Text

/-! ## The table -/

/-- Whether the images of an entry are behind the capitals of ASCII. -/
def CaseRun.isBehindCapitals (run : CaseRun) : Bool := run.image.all (0x5B ≤ ·)

theorem fits_of_mem_caseRuns {fits : CaseRun → Bool} {lines : List String}
    (h : ∀ line ∈ lines, LineFits (fits <| CaseRun.ofWord ·) line) {run : CaseRun}
    (h_run : run ∈ caseRuns lines) : fits run = true := by
  obtain ⟨word, h_word, rfl⟩ := List.mem_map.mp h_run
  exact fits_of_mem h h_word

theorem lowerRuns_image {run : CaseRun} (h : run ∈ lowerRuns) : run.isBehindCapitals = true := by
  refine fits_of_mem_caseRuns ?_ h
  -- Line by line: the whole table is too much for one evaluation.
  repeat refine List.forall_mem_cons.mpr ⟨lineFits_of_eq rfl (by decide +kernel), ?_⟩
  exact nofun

/-- What an entry maps a code point to is behind the capitals, too. -/
theorem le_of_mem_apply {run : CaseRun} (h : run.isBehindCapitals = true) {n code : Nat}
    {codes : List Nat} (h_codes : run.apply n = some codes) (h_code : code ∈ codes) :
    0x5B ≤ code := by
  have h_image : ∀ code ∈ run.image, 0x5B ≤ code :=
    fun code h_mem => of_decide_eq_true (List.all_eq_true.mp h code h_mem)
  unfold CaseRun.apply at h_codes
  split at h_codes
  · split at h_codes
    next single h_single =>
      cases h_codes
      rw [List.mem_singleton.mp h_code]
      have h_first := h_image single (by rw [h_single]; exact List.mem_singleton_self single)
      omega
    next several h_several =>
      cases h_codes
      exact h_image code h_code
  · cases h_codes

/-! ## Characters -/

theorem not_isUpper_lowerChar {c d : Char} (h : d ∈ lowerChar c) : d.isUpper = false := by
  unfold lowerChar at h
  split at h
  next h_ascii =>
    rw [List.mem_singleton.mp h]
    exact not_isUpper_toLower h_ascii
  next h_beyond =>
    unfold caseImage at h
    split at h
    next codes h_codes =>
      obtain ⟨run, h_run, h_apply⟩ := List.exists_of_findSome?_eq_some h_codes
      obtain ⟨code, h_code, rfl⟩ := List.mem_map.mp h
      exact not_isUpper_ofNat (le_of_mem_apply (lowerRuns_image h_run) h_apply h_code)
    next =>
      rw [List.mem_singleton.mp h]
      refine Bool.eq_false_iff.mpr fun h_upper => ?_
      rw [isUpper_iff] at h_upper
      omega

/-- No capital letter of ASCII is left in lower case. -/
theorem not_isUpper_of_mem {before cs : List Char} {d : Char} (h : d ∈ lowerFrom before cs) :
    d.isUpper = false := by
  induction cs generalizing before with
  | nil => cases h
  | cons c rest ih =>
    rcases List.mem_append.mp h with h_first | h_rest
    · split at h_first
      · rw [List.mem_singleton.mp h_first, lowerSigma]
        split <;> decide
      · exact not_isUpper_lowerChar h_first
    · exact ih h_rest

end ImageIntake.Text
