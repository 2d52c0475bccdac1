/-
  ImageIntake.Json.Value

  JSON values.  Whole numbers are kept apart from numbers with a fraction or an
  exponent, and the fields of an object keep their order.  A text may be broken, as
  a value and as the key of a field: it then holds halves of surrogate pairs, which
  are no characters.
-/

import ImageIntake.Number.Binary64

namespace ImageIntake

/-- A text, or a broken text as its code points. -/
inductive Json.Wording where
  | text (s : String)
  | broken (codes : List Nat)
deriving DecidableEq, Repr

/-- A JSON value. -/
inductive Json where
  | null
  | bool (value : Bool)
  | int (value : Int)
  | real (value : Number.Binary64)
  | text (value : String)
  /-- A broken text, as its code points. -/
  | broken (codes : List Nat)
  | list (items : List Json)
  | object (fields : List (Json.Wording × Json))

namespace Json

instance : Inhabited Json := ⟨.null⟩

/-! ## Code points -/

/-- Whether a code point is the first half of a surrogate pair. -/
def isHighHalf (n : Nat) : Bool := 0xD800 ≤ n && n < 0xDC00

/-- Whether a code point is the second half of a surrogate pair. -/
def isLowHalf (n : Nat) : Bool := 0xDC00 ≤ n && n < 0xE000

/-- A code point as a character, where half of a pair is replaced. -/
def charOf (n : Nat) : Char := if n.isValidChar then Char.ofNat n else '\uFFFD'

namespace Wording

instance : Coe String Wording := ⟨.text⟩

/-- The text of code points; it is broken only if one of them is no character. -/
def ofCodes (codes : List Nat) : Wording :=
  if codes.all fun n => decide n.isValidChar then .text (String.ofList (codes.map charOf))
  else .broken codes

/-- A text with replacements for what is no character. -/
def shown : Wording → String
  | .text s => s
  | .broken codes => String.ofList (codes.map charOf)

/-- A text as a value. -/
def toJson : Wording → Json
  | .text s => .text s
  | .broken codes => .broken codes

end Wording

/-- The value of code points. -/
def ofCodes (codes : List Nat) : Json := (Wording.ofCodes codes).toJson

/-! ## Fields -/

/-- Sets a field: an equal key keeps its place and takes the new value, a new key goes last. -/
def setField {α : Type} (fields : List (Wording × α)) (key : Wording) (value : α) :
    List (Wording × α) :=
  match fields with
  | [] => [(key, value)]
  | (k, v) :: rest => if k = key then (k, value) :: rest else (k, v) :: setField rest key value

/-- Sets several fields, the first first. -/
def mergeFields {α : Type} (fields more : List (Wording × α)) : List (Wording × α) :=
  more.foldl (fun acc field => setField acc field.1 field.2) fields

/-- The value of a field of an object. -/
def field? (j : Json) (key : Wording) : Option Json :=
  match j with
  | .object fields => fields.lookup key
  | _ => none

/-- The value of a field, where an absent one counts as null. -/
def field (j : Json) (key : Wording) : Json :=
  (j.field? key).getD .null

/-- Whether a value is null. -/
def isNull : Json → Bool
  | .null => true
  | _ => false

/-- The text of a text value. -/
def wording? : Json → Option Wording
  | .text s => some (.text s)
  | .broken codes => some (.broken codes)
  | _ => none

/-- The text of a text value, with replacements for what is no character. -/
def text? (j : Json) : Option String :=
  j.wording?.map Wording.shown

/-- The number of a whole number. -/
def int? : Json → Option Int
  | .int n => some n
  | _ => none

/-- The value of a truth value. -/
def bool? : Json → Option Bool
  | .bool b => some b
  | _ => none

/-- The items of a list; other values have none. -/
def items : Json → List Json
  | .list xs => xs
  | _ => []

/-- The fields of an object; other values have none. -/
def fields : Json → List (Wording × Json)
  | .object fs => fs
  | _ => []

end Json

end ImageIntake
