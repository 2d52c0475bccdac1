/-
  ImageIntake.Text.Hex

  Bytes as pairs of hexadecimal digits.
-/

import ImageIntake.Text.RangeTable
import ImageIntake.Text.Utf8

namespace ImageIntake.Text

/-- The lower-case digit of a value below sixteen. -/
def hexDigit (n : Nat) : Char :=
  if n < 10 then Char.ofNat ('0'.toNat + n) else Char.ofNat ('a'.toNat + (n - 10))

/-- Bytes as lower-case hexadecimal text. -/
def hex (bs : Bytes) : String :=
  String.ofList (bs.flatMap fun b => [hexDigit (b.toNat / 16), hexDigit (b.toNat % 16)])

/-- Reads pairs of hexadecimal digits; anything that is no pair of digits is passed over. -/
def bytesOfHex : List Char → Bytes
  | a :: b :: rest =>
    match hexDigit? a, hexDigit? b with
    | some x, some y => UInt8.ofNat (x * 16 + y) :: bytesOfHex rest
    | _, _ => bytesOfHex rest
  | _ => []

/-- Reads hexadecimal text. -/
def ofHex (s : String) : Bytes :=
  bytesOfHex s.toList

/-- A 64-bit word as sixteen hexadecimal digits. -/
def hex64 (w : UInt64) : String :=
  let digits := Nat.toDigits 16 w.toNat
  String.ofList (List.replicate (16 - digits.length) '0' ++ digits)

end ImageIntake.Text
