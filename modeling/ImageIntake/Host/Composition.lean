/-
  ImageIntake.Host.Composition

  Canonical composition of lists of code points: everything is taken apart,
  combining marks are put in the order of their classes, and what composes is
  put together again.  A list is composed if this changes nothing.
-/

import ImageIntake.Host.Composition.Tables

namespace ImageIntake.Host

/-! ## Taking apart -/

/-- The letters of a Hangul syllable. -/
def hangulParts (n : Nat) : List Nat :=
  let index := n - 0xAC00
  let head := [0x1100 + index / 588, 0x1161 + index % 588 / 28]
  if index % 28 = 0 then head else head ++ [0x11A7 + index % 28]

/-- The full decomposition of a code point; decompositions nest at most `depth` deep. -/
def decompose (depth n : Nat) : List Nat :=
  match depth with
  | 0 => [n]
  | depth + 1 =>
    if n < 0xC0 then [n]
    else if 0xAC00 ≤ n ∧ n ≤ 0xD7A3 then hangulParts n
    else match decompositions.find? (·.code == n) with
      | some d => d.parts.flatMap (decompose depth)
      | none => [n]

/-! ## Order of marks -/

/-- Puts a mark behind the marks of its own or a lower class. -/
def insertMark (mark : Nat × Nat) : List (Nat × Nat) → List (Nat × Nat)
  | [] => [mark]
  | m :: rest => if mark.2 < m.2 then mark :: m :: rest else m :: insertMark mark rest

/-- Orders each run of marks by class, given the run before the list. -/
def orderMarks (run : List (Nat × Nat)) : List (Nat × Nat) → List (Nat × Nat)
  | [] => run
  | c :: rest =>
    if c.2 = 0 then run ++ c :: orderMarks [] rest else orderMarks (insertMark c run) rest

/-! ## Putting together -/

/-- The code point that two compose to. -/
def composePair (a b : Nat) : Option Nat :=
  -- The letters of a Hangul syllable go together by arithmetic.
  if 0x1100 ≤ a ∧ a < 0x1113 ∧ 0x1161 ≤ b ∧ b < 0x1176 then
    some (0xAC00 + ((a - 0x1100) * 21 + (b - 0x1161)) * 28)
  else if 0xAC00 ≤ a ∧ a ≤ 0xD7A3 ∧ (a - 0xAC00) % 28 = 0 ∧ 0x11A7 < b ∧ b < 0x11C3 then
    some (a + (b - 0x11A7))
  else
    (decompositions.find? fun d => d.composes && d.parts == [a, b]).map (·.code)

/-- Composes onto the last starter; `marks` are those after it that did not compose, reversed. -/
def composeFrom (starter : Nat) (marks : List (Nat × Nat)) : List (Nat × Nat) → List Nat
  | [] => starter :: (marks.reverse.map (·.1))
  | c :: rest =>
    -- A mark is open to the starter if none of its own or a higher class stands between.
    let open? := match marks with
      | [] => true
      | m :: _ => m.2 < c.2
    match if open? then composePair starter c.1 else none with
    | some composed => composeFrom composed marks rest
    | none =>
      if c.2 = 0 then starter :: (marks.reverse.map (·.1)) ++ composeFrom c.1 [] rest
      else composeFrom starter (c :: marks) rest

/-- The composition of a list of ordered code points with their classes. -/
def composeAll : List (Nat × Nat) → List Nat
  | [] => []
  | c :: rest => if c.2 = 0 then composeFrom c.1 [] rest else c.1 :: composeAll rest

/-- The composed form of a list of code points. -/
def compose (codes : List Nat) : List Nat :=
  let apart := codes.flatMap (decompose 8)
  composeAll (orderMarks [] (apart.map fun n => (n, combiningClass n)))

/-- Whether a list of code points is in its composed form. -/
def isComposed (codes : List Nat) : Bool :=
  codes.all (· < 0xC0) || compose codes == codes

end ImageIntake.Host
