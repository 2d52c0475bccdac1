/-
  ImageIntake.Host.Name

  Internationalised host names: labels between dots of four scripts, encoded
  into ASCII or read back, with a limit on the whole length.
-/

import ImageIntake.Host.Label

namespace ImageIntake.Host

/-- The dots that end a label. -/
def isDot (c : Char) : Bool :=
  c = '.' || c = '\u3002' || c = '\uFF0E' || c = '\uFF61'

/-- The labels of a name, and whether a dot ends it; `none` for an empty name. -/
def labels? (name : List Char) : Option (List (List Char) × Bool) :=
  let labels := name.splitOnP isDot
  if name.isEmpty then none
  else if labels.getLast? = some [] then some (labels.dropLast, true)
  else some (labels, false)

/-- Labels between dots, with one at the end if asked. -/
def joinLabels (labels : List (List Char)) (dotted : Bool) : List Char :=
  List.intercalate ['.'] (if dotted then labels ++ [[]] else labels)

/-- The ASCII form of a name. -/
def encodeName (name : List Char) : Except LabelFault (List Char) := do
  require (name.length ≤ 254) .malformed
  match labels? name with
  | none => .error .malformed
  | some (labels, dotted) =>
    let encoded ← labels.mapM asciiLabel
    let whole := joinLabels encoded dotted
    require (whole.length ≤ if dotted then 254 else 253) .malformed
    return whole

/-- A code point as a character; one that is none becomes the replacement. -/
def charOfCode (n : Nat) : Char :=
  if n.isValidChar then Char.ofNat n else '\uFFFD'

/-- The Unicode form of a name in ASCII. -/
def decodeName (name : List Char) : Except LabelFault (List Char) := do
  require (name.length ≤ 254) .malformed
  match labels? name with
  | none => .error .malformed
  | some (labels, dotted) =>
    let decoded ← labels.mapM unicodeLabel
    return joinLabels (decoded.map (·.map charOfCode)) dotted

end ImageIntake.Host
