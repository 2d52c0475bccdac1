/-
  ImageIntake.Text.Utf8

  UTF-8 in both directions.  Decoding never fails: each maximal part of the
  input that begins a character and cannot be completed, and each byte that
  begins none, is read as one replacement character U+FFFD.
-/

namespace ImageIntake

/-- A string of bytes. -/
abbrev Bytes := List UInt8

namespace Text

/-! ## Encoding -/

/-- The bytes of a text. -/
def utf8 (s : String) : Bytes :=
  s.toUTF8.toList

/-! ## Decoding -/

/-- What stands for bytes that are no character. -/
def replacement : Char := '\uFFFD'

/-- Reads the `more` continuation bytes of a character, the first of them between `low` and `high`;
answers the character, or the replacement, and what is left. -/
def takeTails : (more : Nat) → (low high : UInt8) → (acc : Nat) → Bytes → Char × Bytes
  | 0, _, _, acc, rest => (Char.ofNat acc, rest)
  | _ + 1, _, _, _, [] => (replacement, [])
  | more + 1, low, high, acc, b :: rest =>
    if low ≤ b ∧ b ≤ high then takeTails more 0x80 0xBF (acc * 64 + (b.toNat - 0x80)) rest
    else (replacement, b :: rest)

/-- Reads one character whose first byte is given; the bounds of the second byte rule out
overlong forms, surrogates and code points beyond the last. -/
def takeChar (b : UInt8) (rest : Bytes) : Char × Bytes :=
  if b < 0x80 then (Char.ofNat b.toNat, rest)
  else if b < 0xC2 then (replacement, rest)
  else if b < 0xE0 then takeTails 1 0x80 0xBF (b.toNat - 0xC0) rest
  else if b < 0xF0 then
    takeTails 2 (if b = 0xE0 then 0xA0 else 0x80) (if b = 0xED then 0x9F else 0xBF)
      (b.toNat - 0xE0) rest
  else if b < 0xF5 then
    takeTails 3 (if b = 0xF0 then 0x90 else 0x80) (if b = 0xF4 then 0x8F else 0xBF)
      (b.toNat - 0xF0) rest
  else (replacement, rest)

theorem length_takeTails_le (more : Nat) (low high : UInt8) (acc : Nat) (bs : Bytes) :
    (takeTails more low high acc bs).2.length ≤ bs.length := by
  fun_induction takeTails more low high acc bs with
  | case1 => exact Nat.le_refl _
  | case2 => exact Nat.le_refl _
  | case3 _ _ _ _ _ _ _ ih => exact Nat.le_trans ih (Nat.le_succ _)
  | case4 => exact Nat.le_refl _

theorem length_takeChar_le (b : UInt8) (rest : Bytes) :
    (takeChar b rest).2.length ≤ rest.length := by
  unfold takeChar
  repeat' split
  all_goals first
    | exact Nat.le_refl _
    | exact length_takeTails_le ..

/-- The characters of a string of bytes. -/
def decodeChars : Bytes → List Char
  | [] => []
  | b :: rest =>
    let step := takeChar b rest
    step.1 :: decodeChars step.2
termination_by bs => bs.length
decreasing_by exact Nat.lt_succ_of_le (length_takeChar_le b rest)

/-- The text of a string of bytes. -/
def ofUtf8 (bs : Bytes) : String :=
  String.ofList (decodeChars bs)

end Text

end ImageIntake
