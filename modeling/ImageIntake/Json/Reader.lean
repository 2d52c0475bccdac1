/-
  ImageIntake.Json.Reader

  Reading JSON text.  The reader takes a bound on its steps, computed from the
  length of the text, so that it is total.  A half of a surrogate pair that stands
  alone makes a text broken; in a key it reads as the replacement character.
-/

import ImageIntake.Json.Value
import ImageIntake.Number.Whole
import ImageIntake.Text.RangeTable

namespace ImageIntake.Json

open ImageIntake.Text ImageIntake.Number

/-! ## Blanks and words -/

/-- The four characters that may stand between the parts of a value. -/
def isSpace (c : Char) : Bool :=
  c = ' ' || c = '\t' || c = '\n' || c = '\r'

/-- The text from its first character that is no blank. -/
def skipSpace (cs : List Char) : List Char :=
  cs.dropWhile isSpace

/-- Takes a given word off the front. -/
def takeWord (word : String) (cs : List Char) : Option (List Char) :=
  if word.toList.isPrefixOf cs then some (cs.drop word.length) else none

/-! ## Texts -/

/-- Reads four hexadecimal digits. -/
def takeUnit : List Char → Option (Nat × List Char)
  | a :: b :: c :: d :: rest => do
    let w ← hexDigit? a
    let x ← hexDigit? b
    let y ← hexDigit? c
    let z ← hexDigit? d
    return (((w * 16 + x) * 16 + y) * 16 + z, rest)
  | _ => none

/-- Reads the escape of the second half of a pair. -/
def takeLowHalf : List Char → Option (Nat × List Char)
  | '\\' :: 'u' :: rest => do
    let (unit, rest) ← takeUnit rest
    if isLowHalf unit then return (unit, rest) else none
  | _ => none

/-- Reads the units of an escape after its `u`: one unit, or a pair for a character beyond the
basic plane.  A half that stands alone is kept. -/
def takeUnits (cs : List Char) : Option (Nat × List Char) := do
  let (unit, rest) ← takeUnit cs
  if isHighHalf unit then
    match takeLowHalf rest with
    | some (low, rest) => return (0x10000 + (unit - 0xD800) * 0x400 + (low - 0xDC00), rest)
    | none => return (unit, rest)
  else return (unit, rest)

/-- Reads an escape after its backslash; answers a code point. -/
def takeEscape : List Char → Option (Nat × List Char)
  | '"' :: rest => some ('"'.toNat, rest)
  | '\\' :: rest => some ('\\'.toNat, rest)
  | '/' :: rest => some ('/'.toNat, rest)
  | 'n' :: rest => some ('\n'.toNat, rest)
  | 'r' :: rest => some ('\r'.toNat, rest)
  | 't' :: rest => some ('\t'.toNat, rest)
  | 'b' :: rest => some ('\x08'.toNat, rest)
  | 'f' :: rest => some ('\x0c'.toNat, rest)
  | 'u' :: rest => takeUnits rest
  | _ => none

/-- Reads the code points of a text up to its closing quote. -/
def takeText : (fuel : Nat) → List Char → Option (List Nat × List Char)
  | 0, _ => none
  | _ + 1, [] => none
  | fuel + 1, c :: rest =>
    if c = '"' then some ([], rest)
    else if c = '\\' then do
      let (n, rest) ← takeEscape rest
      let (codes, rest) ← takeText fuel rest
      return (n :: codes, rest)
    else if c.toNat < 0x20 then none
    else do
      let (codes, rest) ← takeText fuel rest
      return (c.toNat :: codes, rest)

/-! ## Numbers -/

/-- The leading digits of a text, and the rest. -/
def takeDigits (cs : List Char) : List Char × List Char :=
  cs.span Char.isDigit

/-- The number that ASCII digits spell. -/
def digitsValue (cs : List Char) : Nat :=
  ofDigits (cs.map fun c => c.toNat - '0'.toNat)

/-- Reads the exponent of a number, if one stands there. -/
def takeExponent (cs : List Char) : Option (Int × List Char) :=
  match cs with
  | e :: rest =>
    if e = 'e' ∨ e = 'E' then
      let (negative, rest) := takeSign rest
      match takeDigits rest with
      | ([], _) => none
      | (ds, rest) => some (signed negative (digitsValue ds), rest)
    else none
  | [] => none

/-- Reads a number whose sign has been taken. -/
def takeMagnitude (negative : Bool) (cs : List Char) : Option (Json × List Char) :=
  match takeDigits cs with
  | ([], _) => none
  | (whole, rest) =>
    let (fraction, rest') := match rest with
      | '.' :: more =>
        match takeDigits more with
        | ([], _) => ([], rest)
        | (ds, more) => (ds, more)
      | _ => ([], rest)
    match takeExponent rest' with
    | some (e, rest'') =>
      some (.real (Binary64.ofDecimal negative (digitsValue (whole ++ fraction))
        (e - fraction.length)), rest'')
    | none =>
      if fraction.isEmpty then some (.int (signed negative (digitsValue whole)), rest')
      else some (.real (Binary64.ofDecimal negative (digitsValue (whole ++ fraction))
        (-(fraction.length : Int))), rest')

/-- Reads a number, one of the two infinities or the name of no number. -/
def takeNumber (cs : List Char) : Option (Json × List Char) :=
  match cs with
  | '-' :: rest =>
    match takeWord "Infinity" rest with
    | some rest => some (.real (Binary64.infinity true), rest)
    | none => takeMagnitude true rest
  | _ => takeMagnitude false cs

/-! ## Values -/

/-- Reads a word that names a value. -/
def takeNamed (cs : List Char) : Option (Json × List Char) :=
  let named (word : String) (value : Json) : Option (Json × List Char) :=
    (takeWord word cs).map ((value, ·))
  named "null" .null <|> named "true" (.bool true) <|> named "false" (.bool false) <|>
    named "NaN" (.real (Binary64.notANumber false)) <|>
    named "Infinity" (.real (Binary64.infinity false))

mutual

/-- Reads a value. -/
def takeValue : (fuel : Nat) → List Char → Option (Json × List Char)
  | 0, _ => none
  | fuel + 1, cs =>
    match skipSpace cs with
    | '"' :: rest => (takeText (fuel + 1) rest).map fun (codes, rest) => (ofCodes codes, rest)
    | '[' :: rest =>
      match skipSpace rest with
      | ']' :: rest => some (.list [], rest)
      | rest => do
        let (x, rest) ← takeValue fuel rest
        let (xs, rest) ← takeItems fuel rest
        return (.list (x :: xs), rest)
    | '\x7b' :: rest =>
      match skipSpace rest with
      | '\x7d' :: rest => some (.object [], rest)
      | rest => do
        let (field, rest) ← takeField fuel rest
        let (fields, rest) ← takeFields fuel rest
        return (.object (field :: fields), rest)
    | cs => takeNamed cs <|> takeNumber cs

/-- Reads the items after the first, and the closing bracket. -/
def takeItems : (fuel : Nat) → List Char → Option (List Json × List Char)
  | 0, _ => none
  | fuel + 1, cs =>
    match skipSpace cs with
    | ']' :: rest => some ([], rest)
    | ',' :: rest => do
      let (x, rest) ← takeValue fuel rest
      let (xs, rest) ← takeItems fuel rest
      return (x :: xs, rest)
    | _ => none

/-- Reads one field of an object. -/
def takeField : (fuel : Nat) → List Char → Option ((Wording × Json) × List Char)
  | 0, _ => none
  | fuel + 1, cs =>
    match skipSpace cs with
    | '"' :: rest => do
      let (key, rest) ← takeText (fuel + 1) rest
      match skipSpace rest with
      | ':' :: rest =>
        let (value, rest) ← takeValue fuel rest
        return ((.ofCodes key, value), rest)
      | _ => none
    | _ => none

/-- Reads the fields after the first, and the closing brace. -/
def takeFields : (fuel : Nat) → List Char → Option (List (Wording × Json) × List Char)
  | 0, _ => none
  | fuel + 1, cs =>
    match skipSpace cs with
    | '\x7d' :: rest => some ([], rest)
    | ',' :: rest => do
      let (field, rest) ← takeField fuel rest
      let (fields, rest) ← takeFields fuel rest
      return (field :: fields, rest)
    | _ => none

end

/-- Reads a text that is one value. -/
def read? (s : String) : Option Json :=
  let cs := s.toList
  match takeValue (2 * cs.length + 2) cs with
  | some (value, rest) => if (skipSpace rest).isEmpty then some value else none
  | none => none

end ImageIntake.Json
