/-
  ImageIntake.Files.Path

  Texts of paths: their names between slashes, the plainest text for the same
  path, and the joining of two.
-/

import ImageIntake.Text.Utf8

namespace ImageIntake.Files

/-! ## Paths in parts -/

/-- Where a path starts. -/
inductive Start where
  /-- In the working directory. -/
  | here
  /-- At the root. -/
  | root
  /-- Behind exactly two slashes, which are kept apart from one. -/
  | doubleRoot
deriving DecidableEq, Repr

namespace Start

/-- The slashes a path with this start begins with. -/
def slashes : Start → List Char
  | .here => []
  | .root => ['/']
  | .doubleRoot => ['/', '/']

/-- The start that the beginning of a text shows. -/
def ofChars (cs : List Char) : Start :=
  match (cs.takeWhile (· = '/')).length with
  | 0 => .here
  | 2 => .doubleRoot
  | _ => .root

end Start

/-- A path as its start and the names between its slashes; empty names and single dots are
dropped, two dots are kept. -/
structure Path where
  start : Start
  names : List (List Char)
deriving DecidableEq, Repr

namespace Path

/-- Whether a part between slashes is a name. -/
def isName (part : List Char) : Bool :=
  part ≠ [] && part ≠ ['.']

/-- Reads a path. -/
def ofChars (cs : List Char) : Path :=
  ⟨.ofChars cs, (cs.splitOn '/').filter isName⟩

/-- The characters of a path; the empty relative path is a dot. -/
def chars (p : Path) : List Char :=
  if p.start = .here ∧ p.names = [] then ['.']
  else p.start.slashes ++ List.intercalate ['/'] p.names

/-- One path below another; an absolute one stands for itself. -/
def append (base p : Path) : Path :=
  if p.start = .here then ⟨base.start, base.names ++ p.names⟩ else p

/-- The names of a path from the root, two dots taking the name before them back. -/
def collapse (names : List (List Char)) : List (List Char) :=
  names.foldl (fun above name => if name = ['.', '.'] then above.dropLast else above ++ [name]) []

/-- The path from the root to what a path means in a directory, as its text tells it: links are not
looked at. -/
def absolute (home : List (List Char)) (p : Path) : Path :=
  match p.start with
  | .here => ⟨.root, collapse (home ++ p.names)⟩
  | start => ⟨start, collapse p.names⟩

/-- Reads a path from text. -/
def read (text : String) : Path := .ofChars text.toList

/-- The text of a path. -/
def print (p : Path) : String := String.ofList p.chars

end Path

/-! ## Paths as texts -/

/-- The plainest text for the same path. -/
def plainPath (text : String) : String := (Path.read text).print

/-- A path below another, both in plain form. -/
def pathBelow (base text : String) : String := ((Path.read base).append (.read text)).print

/-- Puts one text behind another with a slash between them where there is none; an absolute one
stands for itself. -/
def joinText (base text : String) : String :=
  if text.toList.head? = some '/' then text
  else if base = "" ∨ base.toList.getLast? = some '/' then base ++ text
  else base ++ "/" ++ text

end ImageIntake.Files
