/-
  ImageIntake.Metrics.Percentage

  The percentage that a line of converter output reports, as `(45.34/100%)`,
  counted in hundredths of a percent.  The leftmost report on a line counts.
-/

import ImageIntake.Number.Whole

namespace ImageIntake.Metrics

open ImageIntake.Text

/-- What closes a report. -/
def reportEnd : List Char := ['/', '1', '0', '0', '%', ')']

/-- A number of percent that one or two digits begin, with what is left after them. -/
def wholePercents : List Char → List (Nat × List Char)
  | a :: b :: rest =>
    match digitValue? a, digitValue? b with
    | some m, some n => [(10 * m + n, rest), (m, b :: rest)]
    | some m, none => [(m, b :: rest)]
    | none, _ => []
  | _ => []

/-- The same number in hundredths, with two decimals behind it taken along or without them. -/
def hundredths (percent : Nat × List Char) : List (Nat × List Char) :=
  let plain := (100 * percent.1, percent.2)
  match percent.2 with
  | '.' :: c :: d :: rest =>
    match digitValue? c, digitValue? d with
    | some m, some n => [(100 * percent.1 + 10 * m + n, rest), plain]
    | _, _ => [plain]
  | _ => [plain]

/-- The full hundred, with two zeros behind it or without. -/
def fullPercents : List Char → List (Nat × List Char)
  | '1' :: '0' :: '0' :: '.' :: '0' :: '0' :: rest => [(10000, rest)]
  | '1' :: '0' :: '0' :: rest => [(10000, rest)]
  | _ => []

/-- The percentage that stands after an opening bracket. -/
def reportAt? (cs : List Char) : Option Nat :=
  (((wholePercents cs).flatMap hundredths ++ fullPercents cs).find? fun r =>
    reportEnd.isPrefixOf r.2).map (·.1)

/-- The leftmost percentage that characters report. -/
def percentIn? : List Char → Option Nat
  | [] => none
  | c :: rest =>
    if c = '(' then (reportAt? rest).or (percentIn? rest) else percentIn? rest

/-- The percentage that a line reports, in hundredths. -/
def percent? (line : String) : Option Nat :=
  percentIn? line.toList

end ImageIntake.Metrics
