/-
  ImageIntake.Proofs.Text.Quoted

  Letters and digits in quoted texts.  They stand in the quotes as they are, and which
  quotes there are does not depend on them; so a text shows those in the middle of it, and
  two that differ there look different (`quoted_inj`).
-/

import ImageIntake.Proofs.Text.Ascii
import ImageIntake.Text.Quoted

namespace ImageIntake.Text

theorem isAlphanum_facts {c : Char} (h : c.isAlphanum = true) :
    c ≠ '\'' ∧ c ≠ '"' ∧ c ≠ '\\' ∧ c ≠ '\n' ∧ c ≠ '\r' ∧ c ≠ '\t' ∧ isPrintable c = true := by
  have h_all : ∀ n : Fin 0x80, (Char.ofNat n.val).isAlphanum = true →
      Char.ofNat n.val ≠ '\'' ∧ Char.ofNat n.val ≠ '"' ∧ Char.ofNat n.val ≠ '\\' ∧
        Char.ofNat n.val ≠ '\n' ∧ Char.ofNat n.val ≠ '\r' ∧ Char.ofNat n.val ≠ '\t' ∧
        isPrintable (Char.ofNat n.val) = true := by
    decide +kernel
  exact ascii_of_all (P := fun c => c.isAlphanum = true → c ≠ '\'' ∧ c ≠ '"' ∧ c ≠ '\\' ∧
    c ≠ '\n' ∧ c ≠ '\r' ∧ c ≠ '\t' ∧ isPrintable c = true) h_all (isAlphanum_lt h) h

theorem quotedChar_of_isAlphanum {quote c : Char} (h : c.isAlphanum = true) (h_quote : c ≠ quote) :
    quotedChar quote c = [c] := by
  obtain ⟨-, -, h_backslash, h_line, h_return, h_tab, h_printable⟩ := isAlphanum_facts h
  rw [quotedChar, if_neg (by simp [h_quote, h_backslash]), if_neg h_line, if_neg h_return,
    if_neg h_tab, if_pos h_printable]

theorem flatMap_quotedChar {quote : Char} {p : List Char} (h : ∀ c ∈ p, quotedChar quote c = [c]) :
    p.flatMap (quotedChar quote) = p := by
  induction p with
  | nil => rfl
  | cons c rest ih =>
    rw [List.flatMap_cons, h c List.mem_cons_self,
      ih fun d h_mem => h d (List.mem_cons_of_mem c h_mem), List.singleton_append]

theorem quoteFor_cases (cs : List Char) : quoteFor cs = '\'' ∨ quoteFor cs = '"' := by
  unfold quoteFor
  split
  · exact .inr rfl
  · exact .inl rfl

theorem quoteFor_around (before after : List Char) {p : List Char}
    (h : ∀ c ∈ p, c.isAlphanum = true) :
    quoteFor (before ++ p ++ after) = quoteFor (before ++ after) := by
  have h_mark {mark : Char} (h_mark : mark.isAlphanum = false) : mark ∉ p := fun h_mem => by
    rw [h mark h_mem] at h_mark
    cases h_mark
  have h_single : '\'' ∉ p := h_mark (by decide)
  have h_double : '"' ∉ p := h_mark (by decide)
  unfold quoteFor
  simp [h_single, h_double]

/-- What quotes put around letters and digits in a text does not depend on these. -/
theorem exists_around_quoted (before after : List Char) :
    ∃ head tail, ∀ p : List Char, (∀ c ∈ p, c.isAlphanum = true) →
      (quoted (String.ofList (before ++ p ++ after))).toList = head ++ p ++ tail := by
  obtain ⟨quote, h_quote⟩ : ∃ quote, quote = quoteFor (before ++ after) := ⟨_, rfl⟩
  refine ⟨quote :: before.flatMap (quotedChar quote), after.flatMap (quotedChar quote) ++ [quote],
    fun p h_p => ?_⟩
  have h_same : p.flatMap (quotedChar quote) = p := by
    refine flatMap_quotedChar (fun c h_mem => ?_)
    obtain ⟨h_single, h_double, -⟩ := isAlphanum_facts (h_p c h_mem)
    refine quotedChar_of_isAlphanum (h_p c h_mem) ?_
    rw [h_quote]
    rcases quoteFor_cases (before ++ after) with h | h
    · rwa [h]
    · rwa [h]
  unfold quoted
  dsimp only
  rw [String.toList_ofList, String.toList_ofList, quoteFor_around before after h_p, ← h_quote,
    List.flatMap_append, List.flatMap_append, h_same]
  simp only [List.append_assoc, List.cons_append]

theorem quoted_inj {before after p q : List Char} (h_p : ∀ c ∈ p, c.isAlphanum = true)
    (h_q : ∀ c ∈ q, c.isAlphanum = true)
    (h : quoted (String.ofList (before ++ p ++ after)) = quoted (String.ofList (before ++ q ++ after))) :
    p = q := by
  obtain ⟨head, tail, h_around⟩ := exists_around_quoted before after
  have h_lists := congrArg String.toList h
  rw [h_around p h_p, h_around q h_q] at h_lists
  exact List.append_cancel_left (List.append_cancel_right h_lists)

end ImageIntake.Text
