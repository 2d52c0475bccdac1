/-
  ImageIntake.Certificate.Armour

  Armoured text: blocks of data in Base64 between a line that begins them and a
  line that ends them, both with the label of the block.  Lines outside blocks
  say nothing.  A block may have a header, which an empty line parts from its
  data; the lines of such data are full but for the last.
-/

import ImageIntake.Text.Base64

namespace ImageIntake.Certificate

/-! ## Lines -/

/-- A line: its characters, one for a byte, and whether the next line goes on with it. -/
structure Line where
  text : List Char
  goesOn : Bool
deriving DecidableEq, Repr

/-- The most characters that are read as one line. -/
def lineLimit : Nat := 254

/-- A line without blanks, controls and foreign bytes at its end. -/
def trimEnd (cs : List Char) : List Char :=
  (cs.reverse.dropWhile fun c => c ≤ ' ' || 0x80 ≤ c.toNat).reverse

/-- How many characters a line takes up; a line feed within the limit goes with its line. -/
def lineSize (head : List Char) : Nat :=
  if head.length < lineLimit then head.length + 1 else head.length

theorem lineSize_pos (head : List Char) : 0 < lineSize head := by
  unfold lineSize lineLimit
  split <;> omega

/-- The lines of a text.  A NUL hides the rest of its line, and one at the head of a line ends the
text. -/
def linesOf (cs : List Char) : List Line :=
  match cs with
  | [] => []
  | c :: rest =>
    if c = '\x00' then []
    else
      let head := ((c :: rest).take lineLimit).takeWhile (· ≠ '\n')
      let seen := head.takeWhile (· ≠ '\x00')
      ⟨trimEnd seen, seen.length = lineLimit⟩ :: linesOf ((c :: rest).drop (lineSize head))
termination_by cs.length
decreasing_by
  have := lineSize_pos (((c :: rest).take lineLimit).takeWhile (· ≠ '\n'))
  simp only [List.length_drop, List.length_cons]
  omega

/-! ## Marks -/

/-- What a label stands before, on either line of a block. -/
def dashes : List Char := "-----".toList

/-- What the line before a block starts with. -/
def beginMark : List Char := "-----BEGIN ".toList

/-- What the line behind a block starts with. -/
def endMark : List Char := "-----END ".toList

/-- A line without a byte order mark at its head. -/
def withoutOrderMark (text : List Char) : List Char :=
  let mark := ['\xEF', '\xBB', '\xBF']
  if mark.isPrefixOf text then text.drop mark.length else text

/-- The label of the block that a line begins. -/
def label? (text : List Char) : Option (List Char) :=
  let rest := text.drop beginMark.length
  if beginMark.isPrefixOf text && dashes.isSuffixOf rest then
    some (rest.take (rest.length - dashes.length))
  else none

/-! ## Data -/

/-- The data that Base64 text stands for, white space apart; a dash ends it. -/
def dataOf? (cs : List Char) : Option Bytes :=
  let isGap (c : Char) : Bool := c = ' ' || c = '\t' || c = '\r' || c = '\n'
  Text.bytesOfBase64? ((cs.takeWhile (· ≠ '-')).filter (!isGap ·))

/-- A block: its label, its header if it has one, and its data, of which there is some. -/
structure Block where
  label : String
  header : String
  data : Bytes
deriving DecidableEq, Repr

/-- Where the reading of a block stands: nothing but the first lines seen, in a header, or behind
the empty line that ends it. -/
inductive Stage where
  | first
  | header
  | body
deriving DecidableEq, Repr

/-- What was read of a block. -/
structure Reading where
  label : List Char
  stage : Stage := .first
  /-- Whether the line before goes on. -/
  goesOn : Bool := false
  /-- Whether a line of the body was shorter than it may be. -/
  short : Bool := false
  top : List Char := []
  body : List Char := []

/-- The length of a full line of a body. -/
def fullLine : Nat := 64

/-- The state after a line: more to come, a block at its end, or a refusal. -/
inductive Step where
  | more (r : Reading)
  | done (b : Block)
  | refused

namespace Reading

/-- The block at its end.  Without an empty line in it there is no header, unless a colon has shown
that there is nothing else. -/
def finish (r : Reading) : Step :=
  let (header, text) := if r.stage = .first then ([], r.top) else (r.top, r.body)
  match dataOf? text with
  | some (b :: bs) => .done ⟨String.ofList r.label, String.ofList header, b :: bs⟩
  | _ => .refused

/-- Adds a line that is neither empty nor a mark. -/
def add (r : Reading) (text : List Char) : Step :=
  if r.short then .refused
  else if r.stage = .body then
    if fullLine < text.length then .refused
    else .more { r with body := r.body ++ text, short := text.length < fullLine }
  else .more { r with top := r.top ++ text ++ ['\n'] }

/-- Reads a line inside a block. -/
def step (r : Reading) (line : Line) : Step :=
  let stage := if r.stage = .first && line.text.contains ':' then .header else r.stage
  let now := { r with stage, goesOn := line.goesOn }
  if line.text.isEmpty then
    -- The end of a line that was too long is no empty line.
    if r.goesOn then .more now
    else if stage = .body then .refused
    else .more { now with stage := .body }
  else if endMark.isPrefixOf line.text then
    if line.text.drop endMark.length = r.label ++ dashes then now.finish else .refused
  else now.add line.text

end Reading

/-! ## Blocks -/

/-- Where the reading of a text stands: between blocks, at the first line there or behind it, or in
a block. -/
inductive Position where
  | between (first : Bool)
  | inside (r : Reading)

/-- The blocks of lines; none at all if one of them is refused or does not end. -/
def blocksFrom : Position → List Line → Option (List Block)
  | .between _, [] => some []
  | .inside _, [] => none
  | .between first, line :: rest =>
    match label? (if first then withoutOrderMark line.text else line.text) with
    | some label => blocksFrom (.inside { label }) rest
    | none => blocksFrom (.between false) rest
  | .inside r, line :: rest =>
    match r.step line with
    | .more r => blocksFrom (.inside r) rest
    | .done b => (blocksFrom (.between true) rest).map (b :: ·)
    | .refused => none

/-- The blocks of a file. -/
def blocks? (content : Bytes) : Option (List Block) :=
  blocksFrom (.between true) (linesOf (content.map fun b => Char.ofNat b.toNat))

end ImageIntake.Certificate
