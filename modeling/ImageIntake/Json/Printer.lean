/-
  ImageIntake.Json.Printer

  JSON text on one line: a space after each comma and colon, and nothing but
  printable ASCII inside, so that a value never spans two lines.  A whole number of
  too many digits and a nesting that is too deep cannot be written.
-/

import ImageIntake.Fault
import ImageIntake.Json.Value
import ImageIntake.Number.Layout
import ImageIntake.Number.Whole

namespace ImageIntake.Json

/-! ## Texts -/

/-- A 16-bit unit as an escape. -/
def unitEscape (unit : Nat) : List Char :=
  let digits := Nat.toDigits 16 unit
  '\\' :: 'u' :: List.replicate (4 - digits.length) '0' ++ digits

/-- How a character is written inside a text: line controls by their letters, other controls and
everything beyond ASCII as 16-bit units, a pair of them beyond the basic plane. -/
def charText (c : Char) : List Char :=
  if c = '"' then ['\\', '"']
  else if c = '\\' then ['\\', '\\']
  else if c = '\n' then ['\\', 'n']
  else if c = '\r' then ['\\', 'r']
  else if c = '\t' then ['\\', 't']
  else if c = '\x08' then ['\\', 'b']
  else if c = '\x0c' then ['\\', 'f']
  else if 0x20 ≤ c.toNat ∧ c.toNat < 0x7F then [c]
  else if c.toNat < 0x10000 then unitEscape c.toNat
  else
    let offset := c.toNat - 0x10000
    unitEscape (0xD800 + offset / 0x400) ++ unitEscape (0xDC00 + offset % 0x400)

/-- A text between its quotes. -/
def quotedChars (cs : List Char) : List Char :=
  '"' :: cs.flatMap charText ++ ['"']

/-- How a code point is written that may be half of a pair. -/
def codeText (n : Nat) : List Char :=
  if n.isValidChar then charText (Char.ofNat n) else unitEscape n

/-- A broken text between its quotes. -/
def quotedCodes (codes : List Nat) : List Char :=
  '"' :: codes.flatMap codeText ++ ['"']

/-- A text, whole or broken, between its quotes. -/
def Wording.chars : Wording → List Char
  | .text s => quotedChars s.toList
  | .broken codes => quotedCodes codes

/-! ## Values -/

/-- A whole number in decimal. -/
def intChars (n : Int) : List Char :=
  if n < 0 then '-' :: Nat.toDigits 10 n.natAbs else Nat.toDigits 10 n.natAbs

mutual

/-- The characters of a value. -/
def chars : Json → List Char
  | .null => "null".toList
  | .bool true => "true".toList
  | .bool false => "false".toList
  | .int n => intChars n
  | .real x => (Number.Layout.json.write x).toList
  | .text s => quotedChars s.toList
  | .broken codes => quotedCodes codes
  | .list [] => ['[', ']']
  | .list (x :: xs) => '[' :: chars x ++ itemsChars xs
  | .object [] => ['\x7b', '\x7d']
  | .object ((k, v) :: rest) =>
    '\x7b' :: k.chars ++ ':' :: ' ' :: chars v ++ fieldsChars rest

/-- The items after the first, and the closing bracket. -/
def itemsChars : List Json → List Char
  | [] => [']']
  | x :: xs => ',' :: ' ' :: chars x ++ itemsChars xs

/-- The fields after the first, and the closing brace. -/
def fieldsChars : List (Wording × Json) → List Char
  | [] => ['\x7d']
  | (k, v) :: rest =>
    ',' :: ' ' :: k.chars ++ ':' :: ' ' :: chars v ++ fieldsChars rest

end

/-- The text of a value. -/
def print (j : Json) : String :=
  String.ofList (chars j)

/-! ## What cannot be written -/

/-- A whole number of more digits than a number may have. -/
def tooLong : Fault :=
  .value ("Exceeds the limit (" ++ toString Number.digitLimit ++
    " digits) for integer string conversion; use sys.set_int_max_str_digits() to increase the limit")

/-- Lists and objects inside each other, more than there is room for. -/
def tooDeep : Fault :=
  .other "RecursionError" "maximum recursion depth exceeded while encoding a JSON object"

mutual

/-- Why a value cannot be written where there is room for so many lists and objects inside each
other: the first thing in it that cannot. -/
def obstacle? (room : Nat) : Json → Option Fault
  | .int n => if n.natAbs < Number.tenTo Number.digitLimit then none else some tooLong
  | .list items =>
    match room with
    | 0 => some tooDeep
    | room + 1 => itemsObstacle? room items
  | .object fields =>
    match room with
    | 0 => some tooDeep
    | room + 1 => fieldsObstacle? room fields
  | _ => none

/-- Why the items of a list cannot be written. -/
def itemsObstacle? (room : Nat) : List Json → Option Fault
  | [] => none
  | x :: xs => (obstacle? room x).or (itemsObstacle? room xs)

/-- Why the fields of an object cannot be written. -/
def fieldsObstacle? (room : Nat) : List (Wording × Json) → Option Fault
  | [] => none
  | (_, x) :: rest => (obstacle? room x).or (fieldsObstacle? room rest)

end

/-- Writes a value. -/
def write (room : Nat) (j : Json) : Except Fault String :=
  match j.obstacle? room with
  | some fault => .error fault
  | none => .ok j.print

end ImageIntake.Json
