/-
  ImageIntake.Number.Real

  Numbers with a fraction as people write them: white space around, one sign,
  digits that single underscores may separate, a point, an exponent, and the
  names of infinity and of no number.  The plain form has ASCII digits, and
  underscores only where there is no white space.
-/

import ImageIntake.Number.Binary64
import ImageIntake.Number.Plain
import ImageIntake.Text.LetterCase

namespace ImageIntake.Number

open ImageIntake.Text

/-! ## Decimals -/

/-- The digits of a part that may be empty. -/
def optionalDigits? (cs : List Char) : Option (List Nat) :=
  cs.mapM asciiDigit?

/-- The exponent that stands behind its letter. -/
def exponent? (cs : List Char) : Option Int := do
  let (negative, body) := takeSign cs
  let digits ← optionalDigits? body
  if digits.isEmpty then none else some (signed negative (ofDigits digits))

/-- A decimal without sign: its digits and the power of ten they are counted in. -/
def decimal? (cs : List Char) : Option (Nat × Int) := do
  let (mantissa, rest) := cs.span fun c => c != 'e' && c != 'E'
  let exponent ← match rest with
    | [] => some 0
    | _ :: body => exponent? body
  let (whole, decimals) := splitAtChar '.' mantissa
  let whole ← optionalDigits? whole
  let decimals ← optionalDigits? (decimals.getD [])
  if whole.isEmpty && decimals.isEmpty then none
  else some (ofDigits (whole ++ decimals), exponent - decimals.length)

/-- The number a text without white space and underscores spells. -/
def realOf? (cs : List Char) : Option Binary64 :=
  let (negative, body) := takeSign cs
  let word := asciiLower (String.ofList body)
  if word = "inf" ∨ word = "infinity" then some (.infinity negative)
  else if word = "nan" then some (.notANumber negative)
  else (decimal? body).map fun (digits, exponent) => .ofDecimal negative digits exponent

/-! ## Reading -/

/-- Reads a number in plain form. -/
def readPlainReal? (s : String) : Option Binary64 :=
  let cs := s.toList
  (realOf? (trimWhere isSpace cs)).or ((withoutUnderscores? cs).bind realOf?)

/-- A character with its ASCII digit in place of a digit of any script. -/
def asciiDigitOf (c : Char) : Char :=
  match digitValue? c with
  | some d => Nat.digitChar d
  | none => c

/-- The text without underscores, each of which stands between two digits. -/
def ungrouped? : (previous : Option Char) → List Char → Option (List Char)
  | _, [] => some []
  | previous, '_' :: rest =>
    let isDigit (c : Option Char) : Bool := (c.map Char.isDigit).getD false
    if isDigit previous && isDigit rest.head? then ungrouped? none rest else none
  | _, c :: rest => (ungrouped? (some c) rest).map (c :: ·)

/-- Reads a number written in digits of any script. -/
def readReal? (s : String) : Option Binary64 :=
  (ungrouped? none ((trimWhere isSpace s.toList).map asciiDigitOf)).bind realOf?

end ImageIntake.Number
