/-
  ImageIntake.Host.Label

  The rules for one label of an internationalised host name: composed form,
  hyphens, first character, permitted code points with the contexts some of them
  need, and the direction of mixed-direction labels.  Labels are lists of code
  points, because a damaged one may hold values that are no characters.
-/

import ImageIntake.Host.Composition
import ImageIntake.Host.Label.Tables
import ImageIntake.Host.Punycode

namespace ImageIntake.Host

/-! ## Outcomes -/

/-- Why a label is refused. -/
inductive LabelFault where
  | malformed
  | codePoint
  | context
  | direction
deriving DecidableEq, Repr

/-- The name under which a refusal is reported. -/
def LabelFault.name : LabelFault → String
  | .malformed => "IDNAError"
  | .codePoint => "InvalidCodepoint"
  | .context => "InvalidCodepointContext"
  | .direction => "IDNABidiError"

/-- Refuses for a reason unless a condition holds. -/
def require (ok : Bool) (fault : LabelFault) : Except LabelFault Unit :=
  if ok then .ok () else .error fault

/-! ## Contexts -/

/-- Whether the letter nearest to a joiner, going through the list, joins towards it. -/
def joinsTowards (side : Text.RangeTable) : List Nat → Bool
  | [] => false
  | n :: rest =>
    if joinCausing.containsCode n then false
    else if joinsBoth.containsCode n then true
    else if joinsNext.containsCode n || joinsPrevious.containsCode n then side.containsCode n
    else if joinTransparent.containsCode n then joinsTowards side rest
    else false

/-- Whether the first of a list is a virama. -/
def afterVirama (before : List Nat) : Bool :=
  match before with
  | [] => false
  | n :: _ => viramas.containsCode n

/-- Whether a joiner may stand between what precedes it, nearest first, and what follows it. -/
def joinerFits (before : List Nat) (n : Nat) (after : List Nat) : Bool :=
  afterVirama before ||
    (n == 0x200C && joinsTowards joinsNext before && joinsTowards joinsPrevious after)

/-- Whether a code point that depends on its neighbourhood may stand where it does. -/
def contextFits (before : List Nat) (n : Nat) (after : List Nat) : Bool :=
  let label := before ++ n :: after
  -- The middle dot stands between two letters l only.
  if n = 0xB7 then before.head? == some 0x6C && after.head? == some 0x6C
  -- The Greek numeral sign stands before a Greek letter.
  else if n = 0x375 then (after.head?.map greek.containsCode).getD false
  -- The Hebrew punctuation stands behind a Hebrew letter.
  else if n = 0x5F3 ∨ n = 0x5F4 then (before.head?.map hebrew.containsCode).getD false
  -- The Katakana middle dot needs a Japanese letter anywhere.
  else if n = 0x30FB then
    label.any fun c =>
      c != 0x30FB && (hiragana.containsCode c || katakana.containsCode c || han.containsCode c)
  -- Two sets of Arabic digits do not go together.
  else if 0x660 ≤ n ∧ n ≤ 0x669 then !label.any fun c => 0x6F0 ≤ c && c ≤ 0x6F9
  else if 0x6F0 ≤ n ∧ n ≤ 0x6F9 then !label.any fun c => 0x660 ≤ c && c ≤ 0x669
  else false

/-- Whether a code point has no name by which its nature could be looked up. -/
def isNameless (n : Nat) : Bool :=
  undirected.containsCode n || unnamed.containsCode n

/-- Checks a code point between what precedes it, nearest first, and what follows it.  A joiner
behind a nameless code point makes the label malformed. -/
def checkCode (before : List Nat) (n : Nat) (after : List Nat) : Except LabelFault Unit :=
  if permitted.containsCode n then .ok ()
  else if joiners.containsCode n then
    if (before.head?.map isNameless).getD false then .error .malformed
    else require (joinerFits before n after) .context
  else if contextual.containsCode n then require (contextFits before n after) .context
  else .error .codePoint

/-- Checks one code point after another, given those before the list, nearest first. -/
def checkCodes (before : List Nat) : List Nat → Except LabelFault Unit
  | [] => .ok ()
  | n :: after => do
    checkCode before n after
    checkCodes (n :: before) after

/-! ## Direction -/

/-- The writing direction of a code point that a label may hold. -/
inductive Direction where
  | left
  | right
  | arabicNumber
  | europeanNumber
  | mark
  | neutral
  | unknown
deriving DecidableEq, Repr

/-- The direction of a code point. -/
def directionOf (n : Nat) : Direction :=
  if undirected.containsCode n then .unknown
  else if rightToLeft.containsCode n then .right
  else if arabicNumbers.containsCode n then .arabicNumber
  else if europeanNumbers.containsCode n then .europeanNumber
  else if nonspacing.containsCode n then .mark
  else if directionless.containsCode n then .neutral
  else .left

/-- The direction a label ends with, marks apart. -/
def endDirection (directions : List Direction) : Option Direction :=
  (directions.filter (· ≠ .mark)).getLast?

/-- Whether a label written from right to left is sound. -/
def rightSound (directions : List Direction) : Bool :=
  !directions.contains .left &&
    !(directions.contains .arabicNumber && directions.contains .europeanNumber) &&
    (match endDirection directions with
      | some .right | some .arabicNumber | some .europeanNumber => true
      | _ => false)

/-- Whether a label written from left to right is sound. -/
def leftSound (directions : List Direction) : Bool :=
  !(directions.contains .right || directions.contains .arabicNumber) &&
    (match endDirection directions with
      | some .left | some .europeanNumber => true
      | _ => false)

/-- Whether the directions in a label are sound; only labels with right-to-left parts are bound. -/
def directionsSound (directions : List Direction) : Bool :=
  if directions.contains .unknown then false
  else if !(directions.contains .right || directions.contains .arabicNumber) then true
  else match directions.head? with
    | some .right => rightSound directions
    | some .left => leftSound directions
    | _ => false

/-! ## The rules together -/

/-- Checks a label against all rules. -/
def checkLabel (label : List Nat) : Except LabelFault Unit := do
  require (!label.isEmpty && label.length ≤ 254) .malformed
  require (isComposed label) .malformed
  require ((label.drop 2).take 2 != [0x2D, 0x2D]) .malformed
  require (label.head? != some 0x2D && label.getLast? != some 0x2D) .malformed
  require (!(label.head?.map marks.containsCode).getD false) .malformed
  checkCodes [] label
  require (directionsSound (label.map directionOf)) .direction

/-- The start of an encoded label. -/
def encodedMark : List Char := ['x', 'n', '-', '-']

/-- The Unicode form of a label in ASCII: an encoded one is decoded, and either is checked. -/
def unicodeLabel (label : List Char) : Except LabelFault (List Nat) := do
  let label := label.map Char.toLower
  if encodedMark.isPrefixOf label then
    let digits := label.drop 4
    require (!digits.isEmpty && digits.getLast? != some '-') .malformed
    match Punycode.decode digits with
    | none => .error .malformed
    | some codes =>
      checkLabel codes
      return codes
  else
    let codes := label.map Char.toNat
    checkLabel codes
    return codes

/-- The ASCII form of a label, of at most 63 characters. -/
def asciiLabel (label : List Char) : Except LabelFault (List Char) := do
  if label.all (·.toNat < 0x80) then
    let _ ← unicodeLabel label
    require (label.length ≤ 63) .malformed
    return label
  else
    let codes := label.map Char.toNat
    checkLabel codes
    let encoded := encodedMark ++ Punycode.encode codes
    require (encoded.length ≤ 63) .malformed
    return encoded

end ImageIntake.Host
