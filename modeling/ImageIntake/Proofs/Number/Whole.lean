/-
  ImageIntake.Proofs.Number.Whole

  A whole number in its own text is read as itself (`eq_of_readWhole?_toString`).  The
  text is a sign and decimal digits, so that no white space is taken off it, and reading
  folds the digits to the number they were made from.
-/

import ImageIntake.Number.Whole
import ImageIntake.Proofs.Text.Ascii

namespace ImageIntake.Number

open ImageIntake.Text

/-! ## Digits -/

theorem groupedDigits?_of_isDigit {cs : List Char} (h_some : cs ≠ [])
    (h : ∀ c ∈ cs, c.isDigit = true) :
    groupedDigits? digitValue? cs = some (cs.map fun c => c.toNat - '0'.toNat) := by
  induction cs with
  | nil => exact absurd rfl h_some
  | cons c rest ih =>
    have h_first := digitValue?_of_isDigit (h c List.mem_cons_self)
    match rest with
    | [] =>
      rw [groupedDigits?, h_first]
      rfl
    | d :: rest =>
      have h_d : d ≠ '_' := by
        rintro rfl
        exact absurd (h '_' (by simp)) (by decide)
      rw [groupedDigits?, h_first, ih (List.cons_ne_nil d rest) fun c h_mem =>
        h c (List.mem_cons_of_mem _ h_mem)]
      · rfl
      · exact List.cons_ne_nil d rest
      · exact fun _ h_eq => h_d (List.cons.inj h_eq).1

/-- The digits of a number are read as the number. -/
theorem ofDigits_toDigits (n : Nat) :
    ofDigits ((Nat.toDigits 10 n).map fun c => c.toNat - '0'.toNat) = n := by
  have h_read := Nat.ofDigitChars_ten_toDigits (n := n)
  rw [Nat.ofDigitChars_eq_foldl] at h_read
  rw [ofDigits, List.foldl_map]
  simpa only [Nat.mul_comm] using h_read

theorem isDigit_of_mem {n : Nat} {c : Char} (h : c ∈ Nat.toDigits 10 n) : c.isDigit = true :=
  Nat.isDigit_of_mem_toDigits (by decide) (by decide) h

/-! ## Numbers -/

theorem isSpace_of_isDigit {c : Char} (h : c.isDigit = true) : isSpace c = false := by
  rw [isDigit_iff] at h
  simp only [isSpace, Bool.or_eq_false_iff, Bool.and_eq_false_iff, decide_eq_false_iff_not,
    beq_eq_false_iff_ne]
  omega

/-- Nothing is trimmed off a text without white space. -/
theorem trimWhere_isSpace {cs : List Char} (h : ∀ c ∈ cs, isSpace c = false) :
    trimWhere isSpace cs = cs := by
  have h_drop {ds : List Char} (h_ds : ∀ c ∈ ds, isSpace c = false) :
      ds.dropWhile isSpace = ds := by
    cases ds with
    | nil => rfl
    | cons c rest => rw [List.dropWhile_cons_of_neg (by rw [h_ds c List.mem_cons_self]; decide)]
  rw [trimWhere, h_drop h, h_drop fun c h_mem => h c (List.mem_reverse.mp h_mem),
    List.reverse_reverse]

theorem takeSign_of_isDigit {cs : List Char} (h : ∀ c ∈ cs, c.isDigit = true) :
    takeSign cs = (false, cs) := by
  match cs with
  | [] => rfl
  | c :: rest =>
    have h_first := h c List.mem_cons_self
    unfold takeSign
    split
    next h_eq =>
      rw [(List.cons.inj h_eq).1] at h_first
      contradiction
    next h_eq =>
      rw [(List.cons.inj h_eq).1] at h_first
      contradiction
    next => rfl

/-- The text of a number: its digits, behind a minus if it is negative. -/
theorem toList_toString (n : Int) :
    (toString n).toList =
      (if n < 0 then ['-'] else []) ++ Nat.toDigits 10 n.natAbs := by
  cases n with
  | ofNat k =>
    rw [Int.ofNat_eq_natCast, if_neg (Int.not_lt.mpr (Int.natCast_nonneg k))]
    exact Nat.toList_repr
  | negSucc k =>
    rw [if_pos (Int.negSucc_lt_zero k), Int.toString_eq_repr, Int.repr, String.toList_append,
      Nat.toList_repr]
    rfl

theorem of_mem_toString {n : Int} {c : Char} (h : c ∈ (toString n).toList) :
    c = '-' ∨ c.isDigit = true := by
  rw [toList_toString] at h
  rcases List.mem_append.mp h with h_sign | h_digit
  · split at h_sign
    · exact .inl (List.mem_singleton.mp h_sign)
    · cases h_sign
  · exact .inr (isDigit_of_mem h_digit)

theorem toString_ne_nil (n : Int) : (toString n).toList ≠ [] := by
  rw [toList_toString]
  exact List.append_ne_nil_of_right_ne_nil _ Nat.toDigits_ne_nil

theorem takeSign_toString (n : Int) :
    takeSign (trimWhere isSpace (toString n).toList) =
      (decide (n < 0), Nat.toDigits 10 n.natAbs) := by
  have h_space : ∀ c ∈ (toString n).toList, isSpace c = false := by
    intro c h_mem
    rcases of_mem_toString h_mem with rfl | h_digit
    · decide
    · exact isSpace_of_isDigit h_digit
  rw [trimWhere_isSpace h_space, toList_toString]
  split
  next h_negative =>
    rw [decide_eq_true h_negative]
    rfl
  next h_positive =>
    rw [List.nil_append, takeSign_of_isDigit fun _ h_mem => isDigit_of_mem h_mem,
      decide_eq_false h_positive]

/-- A number that is read from the text of a number is that number. -/
theorem eq_of_readWhole?_toString {n m : Int} (h : readWhole? (toString n) = some m) : m = n := by
  unfold readWhole? at h
  rw [takeSign_toString] at h
  dsimp only at h
  rw [groupedDigits?_of_isDigit Nat.toDigits_ne_nil fun _ h_mem => isDigit_of_mem h_mem] at h
  dsimp only [bind, Option.bind] at h
  rw [ofDigits_toDigits] at h
  split at h
  · cases h
    unfold signed
    split
    next h_negative =>
      have h_lt := of_decide_eq_true h_negative
      omega
    next h_positive =>
      rw [decide_eq_true_eq] at h_positive
      omega
  · cases h

end ImageIntake.Number
