/-
  ImageIntake.Text.Blank

  White space as Unicode sees it, and blanks, which are white space and the four
  separators U+001C to U+001F; the trimming of either from both ends of a text.
-/

namespace ImageIntake.Text

/-- White space: the ASCII controls of it, the no-break and the typographic spaces, and the line
and paragraph separators. -/
def isSpace (c : Char) : Bool :=
  let n := c.toNat
  (0x09 ≤ n && n ≤ 0x0D) || n == 0x20 || n == 0x85 || n == 0xA0 || n == 0x1680 ||
    (0x2000 ≤ n && n ≤ 0x200A) || n == 0x2028 || n == 0x2029 || n == 0x202F || n == 0x205F ||
    n == 0x3000

/-- A blank: white space, or one of the four separators of files, groups, records and units. -/
def isBlank (c : Char) : Bool :=
  isSpace c || (0x1C ≤ c.toNat && c.toNat ≤ 0x1F)

/-- A list of characters without those of a class at its ends. -/
def trimWhere (inClass : Char → Bool) (cs : List Char) : List Char :=
  ((cs.dropWhile inClass).reverse.dropWhile inClass).reverse

/-- A list of characters without the blanks at its ends. -/
def trimChars (cs : List Char) : List Char :=
  trimWhere isBlank cs

/-- A text without the blanks at its ends. -/
def trim (s : String) : String :=
  String.ofList (trimChars s.toList)

/-- Whether a text is empty or nothing but blanks. -/
def allBlank (s : String) : Bool :=
  s.toList.all isBlank

end ImageIntake.Text
