/-
  ImageIntake.Proofs.Metrics.Occurrence

  Where a line reports a percentage.  A report is a percentage between an opening bracket
  and the end of a report, and it may stand behind anything (`ReportAfter`); reading a line
  finds the leftmost report, or that there is none (`percentIn?_finds`).  The value found
  lies between nothing and the full hundred, and so does the number of double precision
  nearest to it (`percent?_reads_leftmost`).
-/

import ImageIntake.Metrics.Registry
import ImageIntake.Proofs.Metrics.Percentage
import ImageIntake.Proofs.Number.Nearest

namespace ImageIntake.Metrics

open ImageIntake.Number

/-! ## Reports on a line -/

/-- Whether a report of a percentage stands in characters, behind those before it. -/
def ReportAfter (before cs : List Char) (n : Nat) : Prop :=
  ∃ numeral after, Percentage numeral n ∧ cs = before ++ '(' :: (numeral ++ (reportEnd ++ after))

/-- Whether a percentage is that of the leftmost report in characters. -/
def LeftmostReport (cs : List Char) (n : Nat) : Prop :=
  ∃ before, ReportAfter before cs n ∧
    ∀ before' m, ReportAfter before' cs m → before.length ≤ before'.length

theorem reportAfter_nil_iff {c : Char} {rest : List Char} {n : Nat} :
    ReportAfter [] (c :: rest) n ↔ c = '(' ∧ reportAt? rest = some n := by
  rw [reportAt?_eq_some_iff]
  constructor
  · rintro ⟨numeral, after, h_numeral, h_cs⟩
    obtain ⟨h_c, h_rest⟩ := List.cons.inj h_cs
    exact ⟨h_c, numeral, after, h_numeral, h_rest⟩
  · rintro ⟨rfl, numeral, after, h_numeral, rfl⟩
    exact ⟨numeral, after, h_numeral, rfl⟩

theorem reportAfter_cons_iff {c first : Char} {before rest : List Char} {n : Nat} :
    ReportAfter (first :: before) (c :: rest) n ↔ c = first ∧ ReportAfter before rest n := by
  constructor
  · rintro ⟨numeral, after, h_numeral, h_cs⟩
    obtain ⟨h_c, h_rest⟩ := List.cons.inj h_cs
    exact ⟨h_c, numeral, after, h_numeral, h_rest⟩
  · rintro ⟨rfl, numeral, after, h_numeral, rfl⟩
    exact ⟨numeral, after, h_numeral, rfl⟩

theorem not_reportAfter_nil (before : List Char) (n : Nat) : ¬ReportAfter before [] n := by
  rintro ⟨numeral, after, -, h_cs⟩
  exact List.append_ne_nil_of_right_ne_nil before (List.cons_ne_nil _ _) h_cs.symm

/-- In one place there is one report. -/
theorem ReportAfter.unique {before before' cs : List Char} {m n : Nat}
    (h_m : ReportAfter before cs m) (h_n : ReportAfter before' cs n)
    (h_place : before.length = before'.length) : m = n := by
  obtain ⟨numeral, after, h_numeral, rfl⟩ := h_m
  obtain ⟨other, after', h_other, h_cs⟩ := h_n
  obtain ⟨-, h_behind⟩ := List.append_inj h_cs h_place
  exact h_numeral.unique_before h_other (List.cons.inj h_behind).2

theorem LeftmostReport.unique {cs : List Char} {m n : Nat} (h_m : LeftmostReport cs m)
    (h_n : LeftmostReport cs n) : m = n := by
  obtain ⟨before, h_before, h_least⟩ := h_m
  obtain ⟨before', h_before', h_least'⟩ := h_n
  refine h_before.unique h_before' (Nat.le_antisymm ?_ ?_)
  · exact h_least before' n h_before'
  · exact h_least' before m h_before

/-! ## Reading a line -/

/-- Reading finds the leftmost report, or that there is none: at each character there is a report
or the search goes on behind it. -/
theorem percentIn?_finds (cs : List Char) :
    match percentIn? cs with
    | none => ∀ before n, ¬ReportAfter before cs n
    | some n => LeftmostReport cs n := by
  induction cs with
  | nil => exact not_reportAfter_nil
  | cons c rest ih =>
    by_cases h_here : ∃ n, ReportAfter [] (c :: rest) n
    · obtain ⟨n, h_report⟩ := h_here
      obtain ⟨h_c, h_read⟩ := reportAfter_nil_iff.mp h_report
      rw [percentIn?, if_pos h_c, h_read, Option.some_or]
      exact ⟨[], h_report, fun before' m _ => Nat.zero_le _⟩
    · have h_onward : percentIn? (c :: rest) = percentIn? rest := by
        rw [percentIn?]
        split
        next h_c =>
          cases h_read : reportAt? rest with
          | none => exact Option.none_or
          | some n => exact absurd ⟨n, reportAfter_nil_iff.mpr ⟨h_c, h_read⟩⟩ h_here
        next => rfl
      rw [h_onward]
      cases h_rest : percentIn? rest with
      | none =>
        rw [h_rest] at ih
        intro before n h_report
        cases before with
        | nil => exact h_here ⟨n, h_report⟩
        | cons first before => exact ih before n (reportAfter_cons_iff.mp h_report).2
      | some n =>
        rw [h_rest] at ih
        obtain ⟨before, h_report, h_least⟩ := ih
        refine ⟨c :: before, reportAfter_cons_iff.mpr ⟨rfl, h_report⟩, fun before' m h_other => ?_⟩
        cases before' with
        | nil => exact absurd ⟨m, h_other⟩ h_here
        | cons first before' =>
          exact Nat.succ_le_succ (h_least before' m (reportAfter_cons_iff.mp h_other).2)

theorem percentIn?_eq_none_iff {cs : List Char} :
    percentIn? cs = none ↔ ∀ before n, ¬ReportAfter before cs n := by
  have h_finds := percentIn?_finds cs
  cases h_read : percentIn? cs with
  | none =>
    rw [h_read] at h_finds
    exact iff_of_true rfl h_finds
  | some n =>
    rw [h_read] at h_finds
    obtain ⟨before, h_report, -⟩ := h_finds
    exact iff_of_false nofun fun h_none => h_none before n h_report

theorem percentIn?_eq_some_iff {cs : List Char} {n : Nat} :
    percentIn? cs = some n ↔ LeftmostReport cs n := by
  have h_finds := percentIn?_finds cs
  cases h_read : percentIn? cs with
  | none =>
    rw [h_read] at h_finds
    exact iff_of_false nofun fun ⟨before, h_report, _⟩ => h_finds before n h_report
  | some m =>
    rw [h_read] at h_finds
    constructor
    · intro h_same
      rwa [← Option.some.inj h_same]
    · intro h_leftmost
      rw [h_finds.unique h_leftmost]

/-! ## The value in double precision -/

theorem value?_nothing : Binary64.value? (Amount.ofHundredths 0) = some 0 :=
  Binary64.value?_zero false

theorem value?_fullHundred : Binary64.value? (Amount.ofHundredths 10000) = some 100 := by
  have h_content : Binary64.content (Amount.ofHundredths 10000) =
      .finite false (100 * 2 ^ 46) (-46) := by
    decide +kernel
  rw [Binary64.value?_of_content h_content, Binary64.factor, if_neg Bool.false_ne_true]
  norm_num

theorem isNearest_ofHundredths {n : Nat} (h : n ≤ 10000) :
    Binary64.IsNearest (Amount.ofHundredths n) (n / 100) := by
  have h_cast : (n : ℚ) ≤ 10000 := by exact_mod_cast h
  have h_size : (n : ℚ) / (100 : ℕ) < 2 ^ (1023 : ℤ) := by
    calc (n : ℚ) / (100 : ℕ) ≤ 100 := by
          push_cast
          linarith
      _ < 2 ^ (7 : ℤ) := by norm_num
      _ ≤ 2 ^ (1023 : ℤ) := zpow_le_zpow_right₀ one_le_two (by decide)
  have h_nearest := Binary64.isNearest_ofFraction n (by decide) h_size false
  rw [Binary64.factor, if_neg Bool.false_ne_true, one_mul, Nat.cast_ofNat] at h_nearest
  exact h_nearest

/-- What a line reports: nothing exactly if no report stands on it, and else the percentage of the
leftmost.  Its number of double precision is the nearest to it, and lies between nothing and the
full hundred as it does. -/
theorem percent?_reads_leftmost (line : String) :
    (percent? line = none ↔ ∀ before n, ¬ReportAfter before line.toList n) ∧
    (∀ n, percent? line = some n ↔ LeftmostReport line.toList n) ∧
    ∀ n, percent? line = some n → n ≤ 10000 ∧
      Binary64.IsNearest (Amount.ofHundredths n) (n / 100) ∧
      ∃ value, Binary64.value? (Amount.ofHundredths n) = some value ∧ 0 ≤ value ∧ value ≤ 100 := by
  refine ⟨percentIn?_eq_none_iff, fun n => percentIn?_eq_some_iff, fun n h_read => ?_⟩
  have h_most : n ≤ 10000 := percent?_le h_read
  have h_nearest := isNearest_ofHundredths h_most
  have h_between : (0 : ℚ) ≤ n / 100 ∧ (n : ℚ) / 100 ≤ 100 := by
    have h_cast : (n : ℚ) ≤ 10000 := by exact_mod_cast h_most
    have h_nonneg : (0 : ℚ) ≤ n := Nat.cast_nonneg n
    constructor <;> linarith
  exact ⟨h_most, h_nearest,
    h_nearest.between value?_nothing value?_fullHundred h_between.1 h_between.2⟩

/-- Three digits, a hundred with other decimals, a single decimal and an open report before the
first percentage, which has digits of two scripts. -/
def nearMisses : String := "(123/100%) (100.50/100%) (7.5/100%) (8.00/100% ((4٥.0٣/100%) (9/100%)"

theorem nearMisses_passed_over :
    LeftmostReport nearMisses.toList 4503 ∧
      ∃ value, Binary64.value? (Amount.ofHundredths 4503) = some value ∧ 0 ≤ value ∧
        value ≤ 100 := by
  obtain ⟨-, h_some, h_value⟩ := percent?_reads_leftmost nearMisses
  have h_read : percent? nearMisses = some 4503 := by decide +kernel
  obtain ⟨-, -, h_between⟩ := h_value 4503 h_read
  exact ⟨(h_some 4503).mp h_read, h_between⟩

end ImageIntake.Metrics
