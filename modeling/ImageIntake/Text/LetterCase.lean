/-
  ImageIntake.Text.LetterCase

  Lower and upper case of whole texts.  A character may map to several, and a
  capital sigma that ends a word becomes the final form of the small letter.
-/

import ImageIntake.Text.LetterCase.Tables

namespace ImageIntake.Text

/-! ## Single characters -/

/-- The image of a character under a table; characters no run covers are kept. -/
def caseImage (runs : List CaseRun) (c : Char) : List Char :=
  match runs.findSome? (·.apply c.toNat) with
  | some codes => codes.map Char.ofNat
  | none => [c]

/-- The lower-case form of one character, outside of any word. -/
def lowerChar (c : Char) : List Char :=
  if c.toNat < 0x80 then [c.toLower] else caseImage lowerRuns c

/-- The upper-case form of one character. -/
def upperChar (c : Char) : List Char :=
  if c.toNat < 0x80 then [c.toUpper] else caseImage upperRuns c

/-! ## Final sigma -/

/-- The capital sigma. -/
def capitalSigma : Char := '\u03A3'

/-- Whether the nearest character that counts, going through the list, is a cased letter. -/
def meetsCased : List Char → Bool
  | [] => false
  | c :: rest => if caseIgnorable.contains c then meetsCased rest else casedLetters.contains c

/-- The small form of a capital sigma between what stands before it, nearest first, and what
follows it. -/
def lowerSigma (before after : List Char) : Char :=
  if meetsCased before && !meetsCased after then '\u03C2' else '\u03C3'

/-! ## Texts -/

/-- Lower case of a list of characters, given those before it in reverse. -/
def lowerFrom (before : List Char) : List Char → List Char
  | [] => []
  | c :: rest =>
    (if c = capitalSigma then [lowerSigma before rest] else lowerChar c) ++
      lowerFrom (c :: before) rest

/-- Lower case of a text. -/
def lower (s : String) : String :=
  String.ofList (lowerFrom [] s.toList)

/-- Upper case of a text. -/
def upper (s : String) : String :=
  String.ofList (s.toList.flatMap upperChar)

/-- Lower case of the ASCII letters alone. -/
def asciiLower (s : String) : String :=
  s.map Char.toLower

end ImageIntake.Text
