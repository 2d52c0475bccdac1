/-
  ImageIntake.Proofs.Metrics.Percentage

  How a percentage is written (`Percentage`), apart from how it is read: what is read behind
  an opening bracket is the percentage that stands there before the end of a report
  (`reportAt?_eq_some_iff`), and there is one way only to find it
  (`Percentage.unique_before`).  No percentage is more than the full hundred, so that no
  line reports more (`percent?_le`).
-/

import Mathlib.Data.List.Forall2
import ImageIntake.Metrics.Percentage
import ImageIntake.Number.Whole
import ImageIntake.Proofs.Text.DecimalDigit
import ImageIntake.Proofs.Text.Splitting

namespace ImageIntake.Metrics

open ImageIntake.Text

/-! ## Digits that spell a number -/

/-- Whether characters are decimal digits, of any scripts, that spell a number. -/
def Spells (cs : List Char) (n : Nat) : Prop :=
  ∃ values, List.Forall₂ IsDigitOf cs values ∧ n = Number.ofDigits values

theorem ofDigits_one (n : Nat) : Number.ofDigits [n] = n := Nat.zero_add n

theorem ofDigits_two (tens ones : Nat) : Number.ofDigits [tens, ones] = 10 * tens + ones := by
  rw [Number.ofDigits, List.foldl_cons, List.foldl_cons, List.foldl_nil]
  omega

theorem spells_one_iff {a : Char} {n : Nat} : Spells [a] n ↔ IsDigitOf a n := by
  constructor
  · rintro ⟨values, h_values, rfl⟩
    obtain ⟨value, rest, h_a, h_rest, rfl⟩ := List.forall₂_cons_left_iff.mp h_values
    obtain rfl := List.forall₂_nil_left_iff.mp h_rest
    rw [ofDigits_one]
    exact h_a
  · intro h_a
    exact ⟨[n], .cons h_a .nil, (ofDigits_one n).symm⟩

theorem spells_two_iff {a b : Char} {n : Nat} :
    Spells [a, b] n ↔ ∃ tens ones, IsDigitOf a tens ∧ IsDigitOf b ones ∧ n = 10 * tens + ones := by
  constructor
  · rintro ⟨values, h_values, rfl⟩
    obtain ⟨tens, rest, h_a, h_rest, rfl⟩ := List.forall₂_cons_left_iff.mp h_values
    obtain ⟨ones, others, h_b, h_others, rfl⟩ := List.forall₂_cons_left_iff.mp h_rest
    obtain rfl := List.forall₂_nil_left_iff.mp h_others
    exact ⟨tens, ones, h_a, h_b, ofDigits_two tens ones⟩
  · rintro ⟨tens, ones, h_a, h_b, rfl⟩
    exact ⟨[tens, ones], .cons h_a (.cons h_b .nil), (ofDigits_two tens ones).symm⟩

theorem Spells.unique {cs : List Char} {m n : Nat} (h_m : Spells cs m) (h_n : Spells cs n) :
    m = n := by
  obtain ⟨values, h_values, rfl⟩ := h_m
  obtain ⟨others, h_others, rfl⟩ := h_n
  have h_digit : Relator.RightUnique IsDigitOf := fun _ _ _ => IsDigitOf.unique
  rw [h_digit.forall₂ h_values h_others]

theorem Spells.of_mem {cs : List Char} {n : Nat} (h : Spells cs n) {c : Char} (h_mem : c ∈ cs) :
    ∃ value, IsDigitOf c value := by
  obtain ⟨values, h_values, -⟩ := h
  induction h_values with
  | nil => cases h_mem
  | cons h_first _ ih =>
    rcases List.mem_cons.mp h_mem with rfl | h_rest
    · exact ⟨_, h_first⟩
    · exact ih h_rest

theorem Spells.not_mem {cs : List Char} {n : Nat} (h : Spells cs n) {c : Char}
    (h_c : digitValue? c = none) : c ∉ cs := by
  intro h_mem
  obtain ⟨value, h_value⟩ := h.of_mem h_mem
  rw [← digitValue?_eq_some_iff, h_c] at h_value
  cases h_value

theorem Spells.le_of_one_or_two {cs : List Char} {n : Nat} (h : Spells cs n)
    (h_length : cs.length = 1 ∨ cs.length = 2) : n ≤ 99 := by
  rcases h_length with h_one | h_two
  · obtain ⟨a, rfl⟩ := List.length_eq_one_iff.mp h_one
    have h_a := (spells_one_iff.mp h).1
    omega
  · obtain ⟨a, b, rfl⟩ := List.length_eq_two.mp h_two
    obtain ⟨tens, ones, ⟨h_tens, -⟩, ⟨h_ones, -⟩, rfl⟩ := spells_two_iff.mp h
    omega

/-! ## Percentages as they are written -/

/-- Whether characters are the decimals of a percentage, of so many hundredths, or nothing. -/
inductive Decimals : List Char → Nat → Prop
  | none : Decimals [] 0
  | two {digits : List Char} {n : Nat} (h_digits : Spells digits n) (h_length : digits.length = 2) :
      Decimals ('.' :: digits) n

/-- Whether characters are a percentage, of so many hundredths: one or two digits of any scripts
and perhaps two decimals, or the full hundred in digits of ASCII. -/
inductive Percentage : List Char → Nat → Prop
  | digits {whole decimals : List Char} {m n : Nat} (h_whole : Spells whole m)
      (h_length : whole.length = 1 ∨ whole.length = 2) (h_decimals : Decimals decimals n) :
      Percentage (whole ++ decimals) (100 * m + n)
  | hundred : Percentage ['1', '0', '0'] 10000
  | hundredWithZeros : Percentage ['1', '0', '0', '.', '0', '0'] 10000

namespace Decimals

variable {cs : List Char} {n : Nat}

theorem length (h : Decimals cs n) : cs.length = 0 ∨ cs.length = 3 := by
  cases h with
  | none => exact .inl rfl
  | two h_digits h_length => exact .inr (congrArg (· + 1) h_length)

theorem unique {m : Nat} (h_m : Decimals cs m) (h_n : Decimals cs n) : m = n := by
  cases h_m with
  | none => cases h_n; rfl
  | two h_digits => cases h_n with | two h_others => exact h_digits.unique h_others

theorem le (h : Decimals cs n) : n ≤ 99 := by
  cases h with
  | none => exact Nat.zero_le 99
  | two h_digits h_length => exact h_digits.le_of_one_or_two (.inr h_length)

theorem slash_not_mem (h : Decimals cs n) : '/' ∉ cs := by
  cases h with
  | none => exact List.not_mem_nil
  | two h_digits =>
    exact List.not_mem_cons_of_ne_of_not_mem (by decide) (h_digits.not_mem (by decide))

end Decimals

namespace Percentage

variable {cs : List Char} {n : Nat}

theorem le (h : Percentage cs n) : n ≤ 10000 := by
  cases h with
  | digits h_whole h_length h_decimals =>
    have h_m := h_whole.le_of_one_or_two h_length
    have h_n := h_decimals.le
    omega
  | hundred => exact Nat.le_refl 10000
  | hundredWithZeros => exact Nat.le_refl 10000

theorem slash_not_mem (h : Percentage cs n) : '/' ∉ cs := by
  cases h with
  | digits h_whole _ h_decimals =>
    exact List.not_mem_append (h_whole.not_mem (by decide)) h_decimals.slash_not_mem
  | hundred => decide
  | hundredWithZeros => decide

/-- The full hundred has a length that no digits with or without decimals have. -/
theorem hundred_of_length (h : Percentage cs n) (h_length : cs.length = 3 ∨ cs.length = 6) :
    n = 10000 := by
  cases h with
  | digits _ h_whole h_decimals =>
    have h_tail := h_decimals.length
    rw [List.length_append] at h_length
    omega
  | hundred => rfl
  | hundredWithZeros => rfl

/-- Characters are a percentage in one way. -/
theorem unique {m : Nat} (h_m : Percentage cs m) (h_n : Percentage cs n) : m = n := by
  cases h_m with
  | hundred => exact (h_n.hundred_of_length (.inl rfl)).symm
  | hundredWithZeros => exact (h_n.hundred_of_length (.inr rfl)).symm
  | @digits whole decimals _ _ h_whole h_length h_decimals =>
    -- The parts of the two readings agree once their lengths do.
    generalize h_cs : whole ++ decimals = cs at h_n
    have h_lengths := congrArg List.length h_cs
    rw [List.length_append] at h_lengths
    have h_tail := h_decimals.length
    cases h_n with
    | hundred | hundredWithZeros =>
      simp only [List.length_cons, List.length_nil] at h_lengths
      omega
    | digits h_whole' h_length' h_decimals' =>
      have h_tail' := h_decimals'.length
      rw [List.length_append] at h_lengths
      obtain ⟨rfl, rfl⟩ := List.append_inj h_cs (by omega)
      rw [h_whole.unique h_whole', h_decimals.unique h_decimals']

end Percentage

/-! ## Percentages as they are read -/

theorem spells_of_mem_wholePercents {cs : List Char} {percent : Nat × List Char}
    (h : percent ∈ wholePercents cs) : ∃ whole, Spells whole percent.1 ∧
      (whole.length = 1 ∨ whole.length = 2) ∧ cs = whole ++ percent.2 := by
  unfold wholePercents at h
  split at h
  next a b rest =>
    cases h_first : digitValue? a with
    | none =>
      rw [h_first] at h
      cases h
    | some tens =>
      have h_one : Spells [a] tens := spells_one_iff.mpr (digitValue?_eq_some_iff.mp h_first)
      cases h_second : digitValue? b with
      | none =>
        rw [h_first, h_second] at h
        rw [List.mem_singleton.mp h]
        exact ⟨[a], h_one, .inl rfl, rfl⟩
      | some ones =>
        -- The second digit is taken along, or left to what follows.
        rw [h_first, h_second] at h
        rcases List.mem_cons.mp h with rfl | h
        · refine ⟨[a, b], spells_two_iff.mpr ⟨tens, ones, ?_, ?_, rfl⟩, .inr rfl, rfl⟩
          · exact digitValue?_eq_some_iff.mp h_first
          · exact digitValue?_eq_some_iff.mp h_second
        · rw [List.mem_singleton.mp h]
          exact ⟨[a], h_one, .inl rfl, rfl⟩
  · cases h

/-- Both lengths are tried, whatever follows. -/
theorem mem_wholePercents {whole : List Char} {m : Nat} (h : Spells whole m)
    (h_length : whole.length = 1 ∨ whole.length = 2) {rest : List Char} (h_rest : rest ≠ []) :
    (m, rest) ∈ wholePercents (whole ++ rest) := by
  rcases h_length with h_one | h_two
  · obtain ⟨a, rfl⟩ := List.length_eq_one_iff.mp h_one
    obtain ⟨b, rest, rfl⟩ := List.exists_cons_of_ne_nil h_rest
    have h_first := digitValue?_eq_some_iff.mpr (spells_one_iff.mp h)
    rw [List.singleton_append, wholePercents, h_first]
    cases digitValue? b with
    | none => exact List.mem_singleton_self _
    | some ones => exact List.mem_cons_of_mem _ (List.mem_singleton_self _)
  · obtain ⟨a, b, rfl⟩ := List.length_eq_two.mp h_two
    obtain ⟨tens, ones, h_tens, h_ones, rfl⟩ := spells_two_iff.mp h
    rw [← digitValue?_eq_some_iff] at h_tens h_ones
    rw [List.cons_append, List.singleton_append, wholePercents, h_tens, h_ones]
    exact List.mem_cons_self

theorem decimals_of_mem_hundredths {percent r : Nat × List Char} (h : r ∈ hundredths percent) :
    ∃ decimals n, Decimals decimals n ∧ percent.2 = decimals ++ r.2 ∧
      r.1 = 100 * percent.1 + n := by
  have h_plain (h : r ∈ [(100 * percent.1, percent.2)]) :
      ∃ decimals n, Decimals decimals n ∧ percent.2 = decimals ++ r.2 ∧
        r.1 = 100 * percent.1 + n := by
    rw [List.mem_singleton.mp h]
    exact ⟨[], 0, .none, rfl, rfl⟩
  unfold hundredths at h
  dsimp only at h
  split at h
  next c d rest h_rest =>
    cases h_tenths : digitValue? c with
    | none =>
      rw [h_tenths] at h
      exact h_plain h
    | some tens =>
      cases h_last : digitValue? d with
      | none =>
        rw [h_tenths, h_last] at h
        exact h_plain h
      | some ones =>
        rw [h_tenths, h_last] at h
        rcases List.mem_cons.mp h with rfl | h
        · rw [digitValue?_eq_some_iff] at h_tenths h_last
          have h_digits : Spells [c, d] (10 * tens + ones) :=
            spells_two_iff.mpr ⟨tens, ones, h_tenths, h_last, rfl⟩
          exact ⟨['.', c, d], _, .two h_digits rfl, h_rest, Nat.add_assoc _ _ _⟩
        · exact h_plain h
  · exact h_plain h

theorem mem_hundredths {decimals : List Char} {n : Nat} (h : Decimals decimals n) (m : Nat)
    (rest : List Char) : (100 * m + n, rest) ∈ hundredths (m, decimals ++ rest) := by
  cases h with
  | none =>
    have h_last : (100 * m, rest) ∈ [(100 * m, rest)] := List.mem_singleton_self _
    unfold hundredths
    dsimp only [List.nil_append]
    split
    · split
      · exact List.mem_cons_of_mem _ h_last
      · exact h_last
    · exact h_last
  | two h_digits h_length =>
    obtain ⟨c, d, rfl⟩ := List.length_eq_two.mp h_length
    obtain ⟨tens, ones, h_tens, h_ones, rfl⟩ := spells_two_iff.mp h_digits
    rw [← digitValue?_eq_some_iff] at h_tens h_ones
    simp only [hundredths, List.cons_append, List.nil_append, h_tens, h_ones]
    rw [← Nat.add_assoc]
    exact List.mem_cons_self

theorem percentage_of_mem_fullPercents {cs : List Char} {r : Nat × List Char}
    (h : r ∈ fullPercents cs) : ∃ numeral, Percentage numeral r.1 ∧ cs = numeral ++ r.2 := by
  unfold fullPercents at h
  split at h
  · rw [List.mem_singleton.mp h]
    exact ⟨_, .hundredWithZeros, rfl⟩
  · rw [List.mem_singleton.mp h]
    exact ⟨_, .hundred, rfl⟩
  · cases h

/-- What a percentage at the start of characters may come to, with what is left after it. -/
def readings (cs : List Char) : List (Nat × List Char) :=
  (wholePercents cs).flatMap hundredths ++ fullPercents cs

theorem percentage_of_mem_readings {cs : List Char} {r : Nat × List Char} (h : r ∈ readings cs) :
    ∃ numeral, Percentage numeral r.1 ∧ cs = numeral ++ r.2 := by
  rcases List.mem_append.mp h with h_part | h_full
  · obtain ⟨percent, h_percent, h_part⟩ := List.mem_flatMap.mp h_part
    obtain ⟨whole, h_whole, h_length, h_cs⟩ := spells_of_mem_wholePercents h_percent
    obtain ⟨decimals, n, h_decimals, h_rest, h_value⟩ := decimals_of_mem_hundredths h_part
    refine ⟨whole ++ decimals, ?_, ?_⟩
    · rw [h_value]
      exact .digits h_whole h_length h_decimals
    · rw [h_cs, h_rest, List.append_assoc]
  · exact percentage_of_mem_fullPercents h_full

/-- No percentage before the end of a report is missed: the stroke there is no digit and no point,
so that it cannot be taken for more of it. -/
theorem mem_readings {numeral : List Char} {n : Nat} (h : Percentage numeral n)
    (rest : List Char) : (n, '/' :: rest) ∈ readings (numeral ++ '/' :: rest) := by
  cases h with
  | @digits whole decimals m _ h_whole h_length h_decimals =>
    have h_behind : decimals ++ '/' :: rest ≠ [] :=
      List.append_ne_nil_of_right_ne_nil decimals (List.cons_ne_nil '/' rest)
    rw [List.append_assoc]
    refine List.mem_append_left _ (List.mem_flatMap.mpr ⟨(m, decimals ++ '/' :: rest), ?_, ?_⟩)
    · exact mem_wholePercents h_whole h_length h_behind
    · exact mem_hundredths h_decimals m ('/' :: rest)
  | hundred => exact List.mem_append_right _ (List.mem_singleton_self _)
  | hundredWithZeros => exact List.mem_append_right _ (List.mem_singleton_self _)

/-- Before the end of a report there is one percentage to find. -/
theorem Percentage.unique_before {numeral other rest rest' : List Char} {m n : Nat}
    (h_m : Percentage numeral m) (h_n : Percentage other n)
    (h : numeral ++ '/' :: rest = other ++ '/' :: rest') : m = n := by
  obtain ⟨rfl, -⟩ := eq_of_split_first h_m.slash_not_mem h_n.slash_not_mem h
  exact h_m.unique h_n

/-- What is read behind an opening bracket is the percentage that a report has there. -/
theorem reportAt?_eq_some_iff {cs : List Char} {n : Nat} :
    reportAt? cs = some n ↔
      ∃ numeral after, Percentage numeral n ∧ cs = numeral ++ (reportEnd ++ after) := by
  have h_ends {rest : List Char} (h : reportEnd.isPrefixOf rest = true) :
      ∃ after, rest = reportEnd ++ after :=
    (List.isPrefixOf_iff_prefix.mp h).imp fun _ => Eq.symm
  constructor
  · intro h
    obtain ⟨⟨value, rest⟩, h_found, rfl⟩ := Option.map_eq_some_iff.mp h
    obtain ⟨numeral, h_numeral, h_cs⟩ :=
      percentage_of_mem_readings (List.mem_of_find?_eq_some h_found)
    have h_end := List.find?_some h_found
    obtain ⟨after, h_after⟩ := h_ends h_end
    exact ⟨numeral, after, h_numeral, h_cs.trans (congrArg (numeral ++ ·) h_after)⟩
  · rintro ⟨numeral, after, h_numeral, rfl⟩
    have h_some : ((readings (numeral ++ (reportEnd ++ after))).find? fun r =>
        reportEnd.isPrefixOf r.2).isSome = true := by
      rw [List.find?_isSome]
      exact ⟨_, mem_readings h_numeral _, List.isPrefixOf_iff_prefix.mpr ⟨after, rfl⟩⟩
    -- Whichever reading is found first, its percentage ends at the same stroke.
    obtain ⟨⟨value, rest⟩, h_found⟩ := Option.isSome_iff_exists.mp h_some
    obtain ⟨other, h_other, h_cs⟩ :=
      percentage_of_mem_readings (List.mem_of_find?_eq_some h_found)
    have h_end := List.find?_some h_found
    obtain ⟨after', rfl⟩ := h_ends h_end
    rw [h_numeral.unique_before h_other h_cs]
    exact congrArg (Option.map (·.1)) h_found

theorem reportAt?_le {cs : List Char} {n : Nat} (h : reportAt? cs = some n) : n ≤ 10000 := by
  obtain ⟨numeral, _, h_numeral, -⟩ := reportAt?_eq_some_iff.mp h
  exact h_numeral.le

theorem percentIn?_le {cs : List Char} {n : Nat} (h : percentIn? cs = some n) : n ≤ 10000 := by
  induction cs with
  | nil => cases h
  | cons c rest ih =>
    rw [percentIn?] at h
    split at h
    · rcases Option.or_eq_some_iff.mp h with h | ⟨-, h⟩
      · exact reportAt?_le h
      · exact ih h
    · exact ih h

/-- No line reports more than the full hundred. -/
theorem percent?_le {line : String} {n : Nat} (h : percent? line = some n) : n ≤ 10000 :=
  percentIn?_le h

end ImageIntake.Metrics
