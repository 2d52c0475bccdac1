/-
  ImageIntake.Text.RangeTable

  Character properties as tables of code point ranges.  A table is written as
  lines of hexadecimal words, each a single code point (`aa`) or an inclusive range
  (`41-5a`), which keeps the data of a property readable and small.
-/

namespace ImageIntake.Text

/-! ## Hexadecimal words -/

/-- The value of a hexadecimal digit of either case. -/
def hexDigit? (c : Char) : Option Nat :=
  if '0' ≤ c ∧ c ≤ '9' then some (c.toNat - '0'.toNat)
  else if 'a' ≤ c ∧ c ≤ 'f' then some (c.toNat - 'a'.toNat + 10)
  else if 'A' ≤ c ∧ c ≤ 'F' then some (c.toNat - 'A'.toNat + 10)
  else none

/-- The number a hexadecimal word spells; characters that are no digits are passed over. -/
def hexWord (word : List Char) : Nat :=
  word.foldl (fun acc c => match hexDigit? c with
    | some d => acc * 16 + d
    | none => acc) 0

/-- The words on the lines of a table. -/
def tableWords (lines : List String) : List (List Char) :=
  (lines.flatMap (·.toList.splitOn ' ')).filter (· ≠ [])

/-! ## Tables of ranges -/

/-- A set of code points, as inclusive ranges. -/
structure RangeTable where
  ranges : List (Nat × Nat)
deriving Repr

namespace RangeTable

/-- Whether a code point lies in one of the ranges. -/
def containsCode (table : RangeTable) (n : Nat) : Bool :=
  table.ranges.any fun r => r.1 ≤ n && n ≤ r.2

/-- Whether a character lies in one of the ranges. -/
def contains (table : RangeTable) (c : Char) : Bool :=
  table.containsCode c.toNat

/-- Reads one word of a table: `41-5a` is a range and `aa` a single code point. -/
def rangeOfWord (word : List Char) : Nat × Nat :=
  match word.splitOn '-' with
  | [first, last] => (hexWord first, hexWord last)
  | _ => (hexWord word, hexWord word)

/-- Reads a table from lines of hexadecimal words. -/
def ofLines (lines : List String) : RangeTable :=
  ⟨(tableWords lines).map rangeOfWord⟩

end RangeTable

end ImageIntake.Text
