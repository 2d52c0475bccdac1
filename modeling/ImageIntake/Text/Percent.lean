/-
  ImageIntake.Text.Percent

  Percent escapes.  Encoding writes the UTF-8 bytes of every character outside a
  safe set as `%XX`; decoding reads well-formed escapes and keeps the rest.
-/

import ImageIntake.Text.Hex

namespace ImageIntake.Text

/-! ## Encoding -/

/-- The upper-case escape of one byte. -/
def percentByte (b : UInt8) : List Char :=
  ['%', (hexDigit (b.toNat / 16)).toUpper, (hexDigit (b.toNat % 16)).toUpper]

/-- A character as it stands if it is safe, else the escapes of its bytes. -/
def percentChar (safe : Char → Bool) (c : Char) : List Char :=
  if safe c then [c] else (utf8 (String.singleton c)).flatMap percentByte

/-- A text with every character outside the safe set escaped. -/
def percentEncode (safe : Char → Bool) (s : String) : String :=
  String.ofList (s.toList.flatMap (percentChar safe))

/-! ## Decoding -/

/-- The bytes a text stands for once its escapes are read. -/
def percentBytes : List Char → Bytes
  | '%' :: a :: b :: rest =>
    match hexDigit? a, hexDigit? b with
    | some x, some y => UInt8.ofNat (x * 16 + y) :: percentBytes rest
    | _, _ => 0x25 :: percentBytes (a :: b :: rest)
  | c :: rest => utf8 (String.singleton c) ++ percentBytes rest
  | [] => []

/-- The text that an escaped text stands for. -/
def percentDecode (s : String) : String :=
  ofUtf8 (percentBytes s.toList)

end ImageIntake.Text
