/-
  ImageIntake.Number.Plain

  Whole numbers in plain form: a minus if there is one, and ASCII digits of which
  the first is zero only if it stands alone.  Text that is nearly plain is brought
  into that form: white space and a plus are dropped, zeros in front, zeros behind
  a point, and single underscores inside.
-/

import ImageIntake.Number.Whole

namespace ImageIntake.Number

open ImageIntake.Text

/-! ## The plain form -/

/-- Why a text is no whole number. -/
inductive WholeDefect where
  | form
  /-- It has too many digits. -/
  | size
deriving DecidableEq, Repr

/-- A minus that a text may start with, and the rest. -/
def splitMinus : List Char → List Char × List Char
  | '-' :: rest => (['-'], rest)
  | rest => ([], rest)

/-- Whether a text starts with a plain number that is too long, its minus counted. -/
def isOverlong (cs : List Char) : Bool :=
  let (minus, body) := splitMinus cs
  body.head? ≠ some '0' && digitLimit < minus.length + (body.takeWhile Char.isDigit).length

/-- The number a text in plain form spells. -/
def plainWhole? (cs : List Char) : Option Int := do
  let (minus, body) := splitMinus cs
  let digits ← body.mapM asciiDigit?
  if digits.isEmpty || (1 < digits.length && digits.head? = some 0) || isOverlong cs then none
  else some (signed (!minus.isEmpty) (ofDigits digits))

/-! ## Nearly plain text -/

/-- Drops zeros in front, and underscores among them, up to the first other digit or a minus.
Before a point, or the end, the last of them stays. -/
def dropZeros? : List Char → Option (List Char)
  | [] => none
  | c :: rest =>
    if c ≠ '0' then if c.isDigit then some (c :: rest) else none
    else
      let isFiller (d : Char) : Bool := d = '0' || d = '_'
      let filler := c :: rest.takeWhile isFiller
      match rest.dropWhile isFiller with
      | [] => some filler.getLast?.toList
      | d :: tail =>
        if d.isDigit || d = '-' then some (d :: tail)
        else if d = '.' then some (filler.getLast?.toList ++ d :: tail)
        else none

/-- Drops a point and the zeros behind it, if there are zeros and nothing else. -/
def dropDecimals (cs : List Char) : List Char :=
  match splitAtChar '.' cs with
  | (whole, some zeros) => if !zeros.isEmpty && zeros.all (· = '0') then whole else cs
  | (_, none) => cs

/-- The text without underscores, each of which stands alone and inside it. -/
def withoutUnderscores? (cs : List Char) : Option (List Char) :=
  let parts := cs.splitOn '_'
  if parts.any (·.isEmpty) then none else some parts.flatten

/-- Brings a text into plain form as far as it goes. -/
def tidy? (cs : List Char) : Option (List Char) := do
  let cs := trimWhere isSpace cs
  let cs ← match cs with
    | '+' :: '-' :: _ => none
    | '+' :: rest => some rest
    | _ => some cs
  let (minus, body) := splitMinus cs
  let body := dropDecimals (← dropZeros? body)
  return minus ++ (withoutUnderscores? body).getD body

/-- Reads a whole number in plain form or nearly so.  Its size is a defect of its own only where the
text is plain up to there. -/
def readPlainWhole (s : String) : Except WholeDefect Int :=
  let cs := s.toList
  if isOverlong cs then .error .size
  else match (plainWhole? cs).or ((tidy? cs).bind plainWhole?) with
    | some n => .ok n
    | none => .error .form

end ImageIntake.Number
