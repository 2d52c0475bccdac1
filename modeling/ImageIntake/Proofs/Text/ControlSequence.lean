/-
  ImageIntake.Proofs.Text.ControlSequence

  Laws of leaving control sequences out.  No sequence goes on past a character that is
  neither a parameter nor a letter, so that what is on the two sides of one is read on its
  own (`strip_append`); an escape is such a character.  Hence exactly the texts without a
  sequence are left as they are (`strip_eq_self_iff`).
-/

import ImageIntake.Proofs.Text.Ascii
import ImageIntake.Text.ControlSequence

namespace ImageIntake.Text.ControlSequence

/-! ## Characters that end a sequence -/

/-- Whether no sequence goes on past a character. -/
def breaks (c : Char) : Bool := c ≠ '[' && !c.isAlpha && !isParameter c

theorem not_isAlpha_of_breaks {c : Char} (h : breaks c) : c.isAlpha = false := by
  simp only [breaks, Bool.and_eq_true, Bool.not_eq_true'] at h
  exact h.1.2

theorem not_isParameter_of_breaks {c : Char} (h : breaks c) : isParameter c = false := by
  simp only [breaks, Bool.and_eq_true, Bool.not_eq_true'] at h
  exact h.2

theorem ne_bracket_of_breaks {c : Char} (h : breaks c) : c ≠ '[' := by
  simp only [breaks, Bool.and_eq_true, decide_eq_true_eq] at h
  exact h.1.1

theorem afterParameters?_append {c : Char} (h : breaks c) (before after : List Char) :
    afterParameters? (before ++ c :: after) = (afterParameters? before).map (· ++ c :: after) := by
  induction before with
  | nil =>
    have h_none : afterParameters? (c :: after) = none := by
      rw [afterParameters?, not_isAlpha_of_breaks h, not_isParameter_of_breaks h]
      rfl
    exact h_none
  | cons first rest ih =>
    rw [List.cons_append, afterParameters?, afterParameters?, ih]
    split
    · rfl
    · split <;> rfl

/-! ## Sequences at the start -/

theorem afterSequence?_of_ne {c : Char} (h : c ≠ escape) (rest : List Char) :
    afterSequence? (c :: rest) = none := by
  unfold afterSequence?
  split
  next first params h_cons =>
    obtain ⟨rfl, -⟩ := List.cons.inj h_cons
    exact if_neg h
  · rfl

theorem afterSequence?_escape (rest : List Char) :
    afterSequence? (escape :: '[' :: rest) = afterParameters? rest := by
  rw [afterSequence?, if_pos rfl]

theorem afterSequence?_of_second {c second : Char} (h : second ≠ '[') (rest : List Char) :
    afterSequence? (c :: second :: rest) = none := by
  unfold afterSequence?
  split
  next first params h_cons =>
    obtain ⟨-, h_rest⟩ := List.cons.inj h_cons
    exact absurd (List.cons.inj h_rest).1 h
  · rfl

theorem afterSequence?_append {c : Char} (h : breaks c) (first : Char) (before after : List Char) :
    afterSequence? (first :: before ++ c :: after) =
      (afterSequence? (first :: before)).map (· ++ c :: after) := by
  cases before with
  | nil => exact afterSequence?_of_second (ne_bracket_of_breaks h) after
  | cons second rest =>
    by_cases h_second : second = '['
    · by_cases h_first : first = escape
      · rw [h_second, h_first]
        exact (afterSequence?_escape _).trans (afterParameters?_append h rest after)
      · rw [List.cons_append, afterSequence?_of_ne h_first, afterSequence?_of_ne h_first]
        rfl
    · rw [List.cons_append, List.cons_append, afterSequence?_of_second h_second,
        afterSequence?_of_second h_second]
      rfl

/-! ## Leaving sequences out -/

theorem strip_nil : strip [] = [] := by rw [strip]

theorem strip_of_some {c : Char} {rest behind : List Char}
    (h : afterSequence? (c :: rest) = some behind) : strip (c :: rest) = strip behind := by
  rw [strip]
  split
  next other h_other =>
    rw [h] at h_other
    rw [Option.some.inj h_other]
  next h_none =>
    rw [h] at h_none
    cases h_none

theorem strip_of_none {c : Char} {rest : List Char} (h : afterSequence? (c :: rest) = none) :
    strip (c :: rest) = c :: strip rest := by
  rw [strip]
  split
  next other h_other =>
    rw [h] at h_other
    cases h_other
  · rfl

theorem strip_cons_of_ne {c : Char} (h : c ≠ escape) (rest : List Char) :
    strip (c :: rest) = c :: strip rest :=
  strip_of_none (afterSequence?_of_ne h rest)

/-- What is on the two sides of a character that ends sequences is read on its own. -/
theorem strip_append {c : Char} (h : breaks c) (before after : List Char) :
    strip (before ++ c :: after) = strip before ++ strip (c :: after) := by
  fun_induction strip before with
  | case1 => rfl
  | case2 first rest behind h_seq ih =>
    have h_both := afterSequence?_append h first rest after
    rw [h_seq] at h_both
    rw [List.cons_append] at h_both ⊢
    rw [strip_of_some h_both, ih]
  | case3 first rest h_seq ih =>
    have h_both := afterSequence?_append h first rest after
    rw [h_seq] at h_both
    rw [List.cons_append] at h_both ⊢
    rw [strip_of_none h_both, ih, List.cons_append]

theorem strip_append_of_not_mem {cs : List Char} (h : escape ∉ cs) (after : List Char) :
    strip (cs ++ after) = cs ++ strip after := by
  induction cs with
  | nil => rfl
  | cons c rest ih =>
    have h_first : c ≠ escape := by
      rintro rfl
      exact h List.mem_cons_self
    have h_rest : escape ∉ rest := fun h_mem => h (List.mem_cons_of_mem c h_mem)
    rw [List.cons_append, strip_cons_of_ne h_first, ih h_rest, List.cons_append]

theorem strip_of_not_mem {cs : List Char} (h : escape ∉ cs) : strip cs = cs := by
  have h_all := strip_append_of_not_mem h []
  rwa [strip_nil, List.append_nil] at h_all

theorem length_strip_le (cs : List Char) : (strip cs).length ≤ cs.length := by
  fun_induction strip cs with
  | case1 => exact Nat.le_refl 0
  | case2 c rest behind h_seq ih =>
    have h_length := length_afterSequence? h_seq
    rw [List.length_cons]
    omega
  | case3 c rest h_seq ih => exact Nat.succ_le_succ ih

/-! ## Texts without a sequence -/

/-- Whether there is a sequence among characters. -/
def HoldsSequence (cs : List Char) : Prop :=
  ∃ before parameters letter after,
    cs = before ++ escape :: '[' :: (parameters ++ letter :: after) ∧
    (∀ c ∈ parameters, isParameter c) ∧ letter.isAlpha

theorem afterParameters?_eq_some {cs behind : List Char} (h : afterParameters? cs = some behind) :
    ∃ parameters letter, cs = parameters ++ letter :: behind ∧
      (∀ c ∈ parameters, isParameter c) ∧ letter.isAlpha := by
  induction cs with
  | nil => cases h
  | cons c rest ih =>
    rw [afterParameters?] at h
    split at h
    next h_letter =>
      cases h
      exact ⟨[], c, rfl, List.forall_mem_nil _, h_letter⟩
    · split at h
      next h_parameter =>
        obtain ⟨parameters, letter, rfl, h_parameters, h_letter⟩ := ih h
        refine ⟨c :: parameters, letter, rfl, fun d h_mem => ?_, h_letter⟩
        rcases List.mem_cons.mp h_mem with rfl | h_mem
        · exact h_parameter
        · exact h_parameters d h_mem
      · cases h

/-- No parameter is a letter, so that the letter of a sequence is the first behind its
parameters. -/
theorem not_isAlpha_of_isParameter {c : Char} (h : isParameter c) : c.isAlpha = false := by
  simp only [isParameter, Bool.or_eq_true, decide_eq_true_eq] at h
  rcases h with (h_digit | rfl) | rfl
  · refine Bool.eq_false_iff.mpr fun h_letter => ?_
    rw [isDigit_iff] at h_digit
    rcases Bool.or_eq_true_iff.mp h_letter with h_upper | h_lower
    · rw [isUpper_iff] at h_upper
      omega
    · rw [isLower_iff] at h_lower
      omega
  · rfl
  · rfl

theorem afterParameters?_of_parameters {parameters : List Char} {letter : Char}
    (h_parameters : ∀ c ∈ parameters, isParameter c) (h_letter : letter.isAlpha)
    (after : List Char) : afterParameters? (parameters ++ letter :: after) = some after := by
  induction parameters with
  | nil => exact if_pos h_letter
  | cons c rest ih =>
    have h_parameter := h_parameters c List.mem_cons_self
    rw [List.cons_append, afterParameters?, not_isAlpha_of_isParameter h_parameter,
      if_neg Bool.false_ne_true, if_pos h_parameter]
    exact ih fun d h_mem => h_parameters d (List.mem_cons_of_mem c h_mem)

theorem holdsSequence_of_afterSequence? {c : Char} {rest behind : List Char}
    (h : afterSequence? (c :: rest) = some behind) : HoldsSequence (c :: rest) := by
  by_cases h_first : c = escape
  · cases rest with
    | nil => cases h
    | cons second rest =>
      by_cases h_second : second = '['
      · rw [h_first, h_second, afterSequence?_escape] at h
        obtain ⟨parameters, letter, h_rest, h_parameters, h_letter⟩ := afterParameters?_eq_some h
        refine ⟨[], parameters, letter, behind, ?_, h_parameters, h_letter⟩
        rw [h_first, h_second, h_rest]
        rfl
      · rw [afterSequence?_of_second h_second] at h
        cases h
  · rw [afterSequence?_of_ne h_first] at h
    cases h

/-- Exactly the texts without a sequence are left as they are. -/
theorem strip_eq_self_iff (cs : List Char) : strip cs = cs ↔ ¬HoldsSequence cs := by
  constructor
  · rintro h_same ⟨before, parameters, letter, after, rfl, h_parameters, h_letter⟩
    have h_rest : strip (escape :: '[' :: (parameters ++ letter :: after)) = strip after :=
      strip_of_some ((afterSequence?_escape _).trans
        (afterParameters?_of_parameters h_parameters h_letter after))
    have h_before := length_strip_le before
    have h_after := length_strip_le after
    have h_length := congrArg List.length h_same
    rw [strip_append (by decide), h_rest] at h_length
    simp only [List.length_append, List.length_cons] at h_length
    omega
  · intro h_none
    fun_induction strip cs with
    | case1 => rfl
    | case2 c rest behind h_seq ih => exact absurd (holdsSequence_of_afterSequence? h_seq) h_none
    | case3 c rest h_seq ih =>
      rw [ih]
      rintro ⟨before, parameters, letter, after, rfl, h_sequence⟩
      exact h_none ⟨c :: before, parameters, letter, after, rfl, h_sequence⟩

/-- Exactly the texts without a sequence are said as they are. -/
theorem plain_eq_self_iff (text : String) : plain text = text ↔ ¬HoldsSequence text.toList := by
  rw [← strip_eq_self_iff, plain, ← String.toList_inj, String.toList_ofList]

theorem map_plain_eq_self_iff (texts : List String) :
    texts.map plain = texts ↔ ∀ text ∈ texts, ¬HoldsSequence text.toList := by
  have h_map := List.map_inj_left (l := texts) (f := plain) (g := id)
  rw [List.map_id] at h_map
  exact h_map.trans (forall₂_congr fun text _ => plain_eq_self_iff text)

end ImageIntake.Text.ControlSequence
