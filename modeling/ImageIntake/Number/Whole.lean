/-
  ImageIntake.Number.Whole

  Whole numbers as people write them: white space around, one sign, and digits of
  any script that single underscores may separate.  A number of more than 4300
  digits is refused.
-/

import ImageIntake.Text.Blank
import ImageIntake.Text.DecimalDigit

namespace ImageIntake.Number

open ImageIntake.Text

/-! ## Digits -/

/-- The values of digits that single underscores may separate; none may lead, trail or repeat. -/
def groupedDigits? (digit? : Char → Option Nat) : List Char → Option (List Nat)
  | [] => none
  | [c] => (digit? c).map ([·])
  | c :: '_' :: rest => do return (← digit? c) :: (← groupedDigits? digit? rest)
  | c :: rest => do return (← digit? c) :: (← groupedDigits? digit? rest)

/-- The number that decimal digits spell. -/
def ofDigits (ds : List Nat) : Nat :=
  ds.foldl (fun acc d => acc * 10 + d) 0

/-- The value of an ASCII digit. -/
def asciiDigit? (c : Char) : Option Nat :=
  if c.isDigit then some (c.toNat - '0'.toNat) else none

/-- Takes one sign off; answers whether it was a minus. -/
def takeSign : List Char → Bool × List Char
  | '-' :: rest => (true, rest)
  | '+' :: rest => (false, rest)
  | rest => (false, rest)

/-- A number with its sign. -/
def signed (negative : Bool) (n : Nat) : Int :=
  if negative then -(n : Int) else n

/-- Splits at the first occurrence of a character. -/
def splitAtChar (mark : Char) (cs : List Char) : List Char × Option (List Char) :=
  match cs.span (· ≠ mark) with
  | (before, _ :: after) => (before, some after)
  | (before, []) => (before, none)

/-! ## Reading -/

/-- The most digits a number may have. -/
def digitLimit : Nat := 4300

/-- Reads a whole number written in digits of any script. -/
def readWhole? (s : String) : Option Int := do
  let (negative, body) := takeSign (trimWhere isSpace s.toList)
  let digits ← groupedDigits? digitValue? body
  if digits.length ≤ digitLimit then some (signed negative (ofDigits digits)) else none

end ImageIntake.Number
