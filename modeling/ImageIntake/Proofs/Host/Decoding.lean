/-
  ImageIntake.Proofs.Host.Decoding

  An ASCII form can be decoded.  A label that was encoded is read back as the code points
  it was checked as, so that it passes the same checks (`unicodeLabel_of_asciiLabel`), and
  a name is cut into the labels it was put together from (`labels?_joinLabels`).  So the
  only names in ASCII that cannot be decoded are such as were written in ASCII.
-/

import ImageIntake.Proofs.Host.Punycode

namespace ImageIntake.Host

open ImageIntake.Text

/-! ## Labels -/

theorem not_isUpper_of_isPlainChar {c : Char} (h : isPlainChar c = true) : c.isUpper = false := by
  rw [Bool.eq_false_iff, ne_eq, isUpper_iff]
  simp only [isPlainChar, isPlainCode, Bool.or_eq_true, Bool.and_eq_true, decide_eq_true_eq,
    beq_iff_eq] at h
  omega

theorem not_isDot_of_isPlainChar {c : Char} (h : isPlainChar c = true) : isDot c = false := by
  rw [Bool.eq_false_iff, ne_eq]
  intro h_dot
  simp only [isDot, Bool.or_eq_true, decide_eq_true_eq] at h_dot
  rcases h_dot with ((rfl | rfl) | rfl) | rfl
  all_goals exact absurd h (by decide)

theorem of_require {p : Prop} [Decidable p] {fault : LabelFault}
    (h : require (decide p) fault = .ok ()) : p := by
  by_cases h_p : p
  · exact h_p
  · rw [decide_eq_false h_p] at h
    cases h

theorem toNat_le (c : Char) : c.toNat ≤ 0x10FFFF := by
  have h_valid : c.toNat.isValidChar := c.valid
  unfold Nat.isValidChar at h_valid
  omega

/-- A label in its ASCII form is decoded, or it was written so. -/
theorem unicodeLabel_of_asciiLabel {label out : List Char} (h : asciiLabel label = .ok out)
    (h_small : ∀ c ∈ label, c.isUpper = false) : ∃ codes, unicodeLabel out = .ok codes := by
  have h_plain := isPlainChar_of_asciiLabel h h_small
  unfold asciiLabel at h
  split at h
  next h_ascii =>
    obtain ⟨codes, h_codes, h⟩ := ok_of_bind h
    obtain ⟨-, -, h⟩ := ok_of_bind h
    cases h
    exact ⟨codes, h_codes⟩
  next h_beyond =>
    obtain ⟨⟨⟩, h_check, h⟩ := ok_of_bind h
    obtain ⟨-, -, h⟩ := ok_of_bind h
    cases h
    have h_limit : ∀ n ∈ label.map Char.toNat, n ≤ 0x10FFFF := by
      rintro n h_n
      obtain ⟨c, -, rfl⟩ := List.mem_map.mp h_n
      exact toNat_le c
    obtain ⟨c, h_c, h_far⟩ : ∃ c ∈ label, 0x80 ≤ c.toNat := by
      simpa using h_beyond
    obtain ⟨h_some, h_last⟩ := Punycode.getLast?_encode h_limit (List.mem_map_of_mem h_c) h_far
    have h_mark : encodedMark.isPrefixOf (encodedMark ++ Punycode.encode (label.map Char.toNat)) =
        true := List.isPrefixOf_iff_prefix.mpr (List.prefix_append ..)
    have h_capitals := fun c h_mem => not_isUpper_of_isPlainChar (h_plain c h_mem)
    have h_ends : (!(Punycode.encode (label.map Char.toNat)).isEmpty &&
        (Punycode.encode (label.map Char.toNat)).getLast? != some '-') = true := by
      simp [h_some, h_last]
    have h_drop : (encodedMark ++ Punycode.encode (label.map Char.toNat)).drop 4 =
        Punycode.encode (label.map Char.toNat) := rfl
    refine ⟨label.map Char.toNat, ?_⟩
    unfold unicodeLabel
    rw [map_toLower h_capitals]
    dsimp only
    rw [if_pos h_mark, h_drop, h_ends, Punycode.decode_encode h_limit]
    dsimp only
    rw [h_check]
    rfl

theorem ok_of_forall_ok {α β : Type} {f : α → Except LabelFault β} {xs : List α}
    (h : ∀ x ∈ xs, ∃ y, f x = .ok y) : ∃ ys, xs.mapM f = .ok ys := by
  induction xs with
  | nil => exact ⟨[], rfl⟩
  | cons first rest ih =>
    obtain ⟨y, h_first⟩ := h first List.mem_cons_self
    obtain ⟨ys, h_rest⟩ := ih fun x h_mem => h x (List.mem_cons_of_mem first h_mem)
    refine ⟨y :: ys, ?_⟩
    rw [List.mapM_cons, h_first, h_rest]
    rfl

/-! ## Names -/

theorem splitOnP_intercalate {p : Char → Bool} {mark : Char} {parts : List (List Char)}
    (h_mark : p mark = true) (h_some : parts ≠ []) (h : ∀ part ∈ parts, ∀ c ∈ part, p c = false) :
    ([mark].intercalate parts).splitOnP p = parts := by
  induction parts with
  | nil => exact absurd rfl h_some
  | cons first rest ih =>
    obtain ⟨h_first, h_rest⟩ := List.forall_mem_cons.mp h
    have h_whole : first.splitOnP p = [first] := List.splitOnP_eq_singleton h_first
    cases rest with
    | nil => simpa using h_whole
    | cons second rest =>
      rw [List.intercalate_cons_cons, List.append_assoc, List.singleton_append,
        List.splitOnP_append_cons _ _ h_mark, h_whole, ih (List.cons_ne_nil _ _) h_rest]
      rfl

/-- A name is cut into the labels that it was put together from. -/
theorem labels?_joinLabels {labels : List (List Char)} (dotted : Bool) (h_some : labels ≠ [])
    (h_full : ∀ label ∈ labels, label ≠ []) (h : ∀ label ∈ labels, ∀ c ∈ label, isDot c = false) :
    labels? (joinLabels labels dotted) = some (labels, dotted) := by
  have h_parts : (joinLabels labels dotted).splitOnP isDot =
      if dotted then labels ++ [[]] else labels := by
    refine splitOnP_intercalate rfl ?_ ?_
    · cases dotted with
      | false => exact h_some
      | true => simp
    · cases dotted with
      | false => exact h
      | true =>
        intro part h_part
        rcases List.mem_append.mp h_part with h_label | h_end
        · exact h part h_label
        · rw [List.mem_singleton.mp h_end]
          exact fun c h_mem => nomatch h_mem
  have h_name : (joinLabels labels dotted).isEmpty = false := by
    rw [List.isEmpty_eq_false_iff]
    intro h_nil
    rw [h_nil, List.splitOnP_nil] at h_parts
    cases dotted with
    | false =>
      have h_labels : labels = [[]] := h_parts.symm
      exact h_full [] (by rw [h_labels]; exact List.mem_singleton_self []) rfl
    | true =>
      have h_length := congrArg List.length h_parts
      rw [if_pos rfl, List.length_append] at h_length
      exact h_some (List.length_eq_zero_iff.mp (Nat.succ.inj h_length).symm)
  unfold labels?
  rw [h_parts, h_name]
  cases dotted with
  | false =>
    have h_last : labels.getLast? ≠ some [] := fun h_end =>
      h_full [] (List.mem_of_getLast? h_end) rfl
    simp [h_last]
  | true => simp

/-- A name of labels that can be decoded can be. -/
theorem decodeName_joinLabels {labels : List (List Char)} {dotted : Bool} (h_some : labels ≠ [])
    (h_plain : ∀ label ∈ labels, ∀ c ∈ label, isDot c = false)
    (h_labels : ∀ label ∈ labels, ∃ codes, unicodeLabel label = .ok codes)
    (h_length : (joinLabels labels dotted).length ≤ 254) :
    ∃ out, decodeName (joinLabels labels dotted) = .ok out := by
  have h_full : ∀ label ∈ labels, label ≠ [] := by
    rintro label h_mem rfl
    obtain ⟨codes, h_codes⟩ := h_labels [] h_mem
    cases h_codes
  obtain ⟨decoded, h_decoded⟩ := ok_of_forall_ok h_labels
  refine ⟨joinLabels (decoded.map (·.map charOfCode)) dotted, ?_⟩
  unfold decodeName
  rw [labels?_joinLabels dotted h_some h_full h_plain, require, decide_eq_true h_length]
  dsimp only
  rw [h_decoded]
  rfl

/-- The ASCII form of a name that is no ASCII text can be decoded. -/
theorem decodeName_of_encodeName {name out : List Char} (h : encodeName name = .ok out)
    (h_small : ∀ c ∈ name, c.isUpper = false) (h_some : out ≠ []) :
    ∃ decoded, decodeName out = .ok decoded := by
  unfold encodeName at h
  obtain ⟨-, -, h⟩ := ok_of_bind h
  split at h
  · cases h
  next labels dotted h_labels =>
    obtain ⟨encoded, h_encoded, h⟩ := ok_of_bind h
    obtain ⟨⟨⟩, h_length, h⟩ := ok_of_bind h
    cases h
    have h_ascii (part : List Char) (h_part : part ∈ encoded) :
        (∃ codes, unicodeLabel part = .ok codes) ∧ ∀ c ∈ part, isPlainChar c = true := by
      obtain ⟨label, h_label, h_ascii⟩ := of_mem_mapM h_encoded h_part
      have h_label_small := fun c h_mem => h_small c (mem_of_labels? h_labels h_label h_mem)
      exact ⟨unicodeLabel_of_asciiLabel h_ascii h_label_small,
        isPlainChar_of_asciiLabel h_ascii h_label_small⟩
    have h_full : encoded ≠ [] := by
      rintro rfl
      cases dotted with
      | false => exact h_some rfl
      | true => exact h_some rfl
    have h_short : (joinLabels encoded dotted).length ≤ 254 := by
      have h_bound := of_require h_length
      cases dotted with
      | false => exact Nat.le_succ_of_le h_bound
      | true => exact h_bound
    exact decodeName_joinLabels h_full
      (fun label h_mem c h_c => not_isDot_of_isPlainChar ((h_ascii label h_mem).2 c h_c))
      (fun label h_mem => (h_ascii label h_mem).1) h_short

end ImageIntake.Host
