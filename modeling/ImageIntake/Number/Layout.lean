/-
  ImageIntake.Number.Layout

  How a double precision number is laid out as text: which exponents are written
  positionally, and how the others and the three special values are spelled.
-/

import ImageIntake.Number.Binary64

namespace ImageIntake.Number

/-- The choices of a number format. -/
structure Layout where
  /-- The least exponent written positionally. -/
  least : Int
  /-- The greatest exponent written positionally. -/
  greatest : Int
  /-- The least number of digits of a written exponent. -/
  exponentDigits : Nat
  nan : String
  infinity : String

namespace Layout

/-- Digits filled with zeros on the left up to a width. -/
def padded (width n : Nat) : List Char :=
  let digits := Nat.toDigits 10 n
  List.replicate (width - digits.length) '0' ++ digits

/-- Digits with a point after the first `point` of them, and at least one digit on each side. -/
def positional (digits : List Char) (point : Int) : List Char :=
  if point ≤ 0 then '0' :: '.' :: List.replicate (-point).toNat '0' ++ digits
  else if (digits.length : Int) ≤ point then
    digits ++ List.replicate (point - digits.length).toNat '0' ++ ['.', '0']
  else digits.take point.toNat ++ '.' :: digits.drop point.toNat

/-- One digit, the others after a point, and an exponent with its sign. -/
def scientific (layout : Layout) (digits : List Char) (exponent : Int) : List Char :=
  let fraction := digits.drop 1
  digits.take 1 ++ (if fraction.isEmpty then [] else '.' :: fraction) ++
    'e' :: (if exponent < 0 then '-' else '+') :: padded layout.exponentDigits exponent.natAbs

/-- A finite magnitude in the fewest digits that read back. -/
def magnitude (layout : Layout) (mantissa : Nat) (exponent : Int) : List Char :=
  let d := Binary64.shortest mantissa exponent
  let digits := Nat.toDigits 10 d.digits
  let leading : Int := digits.length + d.exponent - 1
  if layout.least ≤ leading ∧ leading ≤ layout.greatest then positional digits (leading + 1)
  else layout.scientific digits leading

/-- A number as text. -/
def write (layout : Layout) (x : Binary64) : String :=
  match x.content with
  | .nan => layout.nan
  | .infinite negative => if negative then "-" ++ layout.infinity else layout.infinity
  | .finite negative mantissa exponent =>
    let text := layout.magnitude mantissa exponent
    String.ofList (if negative then '-' :: text else text)

/-- Plain text of a number: positional from 0.0001 up to 16 digits before the point. -/
def plain : Layout := ⟨-4, 15, 2, "nan", "inf"⟩

/-- The same digits with the names that JSON readers know. -/
def json : Layout := ⟨-4, 15, 2, "NaN", "Infinity"⟩

end Layout

end ImageIntake.Number
