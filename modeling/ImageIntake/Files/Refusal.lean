/-
  ImageIntake.Files.Refusal

  Why the operating system refuses to do something with a path.
-/

import ImageIntake.Fault

namespace ImageIntake.Files

/-- A refusal. -/
inductive Refusal where
  | absent
  | noDevice
  | denied
  | present
  | notDirectory
  | isDirectory
  | nameTooLong
  | tooManyLinks
deriving DecidableEq, Repr

namespace Refusal

/-- The number of a refusal. -/
def number : Refusal → Int
  | .absent => 2
  | .noDevice => 6
  | .denied => 13
  | .present => 17
  | .notDirectory => 20
  | .isDirectory => 21
  | .nameTooLong => 36
  | .tooManyLinks => 40

/-- The wording of a refusal. -/
def words : Refusal → String
  | .absent => "No such file or directory"
  | .noDevice => "No such device or address"
  | .denied => "Permission denied"
  | .present => "File exists"
  | .notDirectory => "Not a directory"
  | .isDirectory => "Is a directory"
  | .nameTooLong => "File name too long"
  | .tooManyLinks => "Too many levels of symbolic links"

/-- The fault that reports a refusal, with the path as it was given. -/
def fault (r : Refusal) (path : String) : Fault :=
  .numbered r.number (r.words ++ ": " ++ Text.quoted path)

end Refusal

end ImageIntake.Files
