/-
  ImageIntake.Proofs.Json.Printing

  Printed values hold printable ASCII and nothing else (`printed_chars`), whatever texts
  are in them: no value spans two lines.
-/

import Mathlib.Tactic.SplitIfs
import ImageIntake.Json.Printer

namespace ImageIntake.Json

open ImageIntake.Number

/-! ## Printable text -/

/-- Text of printable ASCII. -/
def Printed (cs : List Char) : Prop :=
  ∀ c ∈ cs, 0x20 ≤ c.toNat ∧ c.toNat < 0x7F

namespace Printed

instance (cs : List Char) : Decidable (Printed cs) :=
  decidable_of_iff (cs.all fun c => 0x20 ≤ c.toNat && c.toNat < 0x7F) (by simp [Printed])

variable {cs ds : List Char}

theorem append (h : Printed cs) (h' : Printed ds) : Printed (cs ++ ds) :=
  List.forall_mem_append.mpr ⟨h, h'⟩

theorem cons {c : Char} (h : Printed [c]) (h' : Printed ds) : Printed (c :: ds) :=
  h.append h'

theorem of_sublist (h : ds.Sublist cs) (h' : Printed cs) : Printed ds :=
  fun c h_mem => h' c (h.subset h_mem)

theorem flatMap {α : Type} {f : α → List Char} (h : ∀ x, Printed (f x)) (xs : List α) :
    Printed (xs.flatMap f) := by
  intro c h_mem
  obtain ⟨x, -, h_x⟩ := List.mem_flatMap.mp h_mem
  exact h x c h_x

theorem zeros (n : Nat) : Printed (List.replicate n '0') := by
  intro c h_mem
  rw [List.eq_of_mem_replicate h_mem]
  decide

end Printed

/-! ## Numbers -/

theorem printed_digitChar : ∀ d < 16, Printed [Nat.digitChar d] := by
  decide

/-- Digits are printable, the hexadecimal ones too. -/
theorem printed_toDigits {base : Nat} (h_base : 1 < base ∧ base ≤ 16) (n : Nat) :
    Printed (Nat.toDigits base n) := by
  induction n using Nat.strongRecOn with
  | ind n ih =>
    rcases Nat.lt_or_ge n base with h_last | h_more
    · rw [Nat.toDigits_of_lt_base h_last]
      exact printed_digitChar n (by omega)
    · rw [Nat.toDigits_of_base_le h_base.1 h_more]
      have h_digit : n % base < base := Nat.mod_lt n (by omega)
      exact (ih (n / base) (Nat.div_lt_self (by omega) h_base.1)).append
        (printed_digitChar _ (by omega))

theorem printed_decimal (n : Nat) : Printed (Nat.toDigits 10 n) :=
  printed_toDigits (by decide) n

theorem printed_intChars (n : Int) : Printed (intChars n) := by
  unfold intChars
  split
  · exact .cons (by decide) (printed_decimal n.natAbs)
  · exact printed_decimal n.natAbs

theorem printed_positional {digits : List Char} (h : Printed digits) (point : Int) :
    Printed (Layout.positional digits point) := by
  unfold Layout.positional
  split_ifs
  · exact .cons (by decide) (.cons (by decide) ((Printed.zeros _).append h))
  · exact (h.append (.zeros _)).append (by decide)
  · exact (h.of_sublist (List.take_sublist _ _)).append
      (.cons (by decide) (h.of_sublist (List.drop_sublist _ _)))

theorem printed_scientific (layout : Layout) {digits : List Char} (h : Printed digits)
    (exponent : Int) : Printed (layout.scientific digits exponent) := by
  have h_fraction : Printed (digits.drop 1) := h.of_sublist (List.drop_sublist _ _)
  have h_point : Printed (if (digits.drop 1).isEmpty then [] else '.' :: digits.drop 1) := by
    split
    · decide
    · exact .cons (by decide) h_fraction
  have h_sign : Printed [if exponent < 0 then '-' else '+'] := by
    split <;> decide
  have h_exponent : Printed (Layout.padded layout.exponentDigits exponent.natAbs) :=
    (Printed.zeros _).append (printed_decimal _)
  exact ((h.of_sublist (List.take_sublist _ _)).append h_point).append
    (.cons (by decide) (.cons h_sign h_exponent))

theorem printed_magnitude (layout : Layout) (mantissa : Nat) (exponent : Int) :
    Printed (layout.magnitude mantissa exponent) := by
  unfold Layout.magnitude
  dsimp only
  split
  · exact printed_positional (printed_decimal _) _
  · exact printed_scientific layout (printed_decimal _) _

/-- A number with a fraction is printable, and so are the names of the three special values. -/
theorem printed_write (x : Binary64) : Printed (Layout.json.write x).toList := by
  unfold Layout.write
  split
  · decide
  · split <;> decide
  · rw [String.toList_ofList]
    split
    · exact .cons (by decide) (printed_magnitude _ _ _)
    · exact printed_magnitude _ _ _

/-! ## Texts -/

theorem printed_unitEscape (n : Nat) : Printed (unitEscape n) :=
  .cons (by decide) (.cons (by decide) ((Printed.zeros _).append (printed_toDigits (by decide) n)))

/-- A character is written in printable ones, whatever it is. -/
theorem printed_charText (c : Char) : Printed (charText c) := by
  unfold charText
  split_ifs with h_quote h_slash h_feed h_return h_tab h_back h_form h_plain h_basic
  · decide
  · decide
  · decide
  · decide
  · decide
  · decide
  · decide
  · intro d h_mem
    rwa [List.mem_singleton.mp h_mem]
  · exact printed_unitEscape _
  · exact (printed_unitEscape _).append (printed_unitEscape _)

theorem printed_codeText (n : Nat) : Printed (codeText n) := by
  unfold codeText
  split
  · exact printed_charText _
  · exact printed_unitEscape n

theorem printed_quotedChars (cs : List Char) : Printed (quotedChars cs) :=
  (Printed.cons (by decide) (.flatMap printed_charText cs)).append (by decide)

theorem printed_quotedCodes (codes : List Nat) : Printed (quotedCodes codes) :=
  (Printed.cons (by decide) (.flatMap printed_codeText codes)).append (by decide)

theorem printed_wording (w : Wording) : Printed w.chars := by
  cases w with
  | text s => exact printed_quotedChars s.toList
  | broken codes => exact printed_quotedCodes codes

/-! ## Values -/

mutual

/-- A value is printed in printable ASCII. -/
theorem printed_chars (j : Json) : Printed (chars j) := by
  match j with
  | .null | .bool true | .bool false | .list [] | .object [] => decide
  | .int n => exact printed_intChars n
  | .real x => exact printed_write x
  | .text s => exact printed_quotedChars s.toList
  | .broken codes => exact printed_quotedCodes codes
  | .list (x :: xs) =>
    exact (Printed.cons (by decide) (printed_chars x)).append (printed_itemsChars xs)
  | .object ((key, value) :: fields) =>
    have h_value : Printed (':' :: ' ' :: chars value) :=
      .cons (by decide) (.cons (by decide) (printed_chars value))
    exact ((Printed.cons (by decide) (printed_wording key)).append h_value).append
      (printed_fieldsChars fields)

/-- So are the items after the first. -/
theorem printed_itemsChars (xs : List Json) : Printed (itemsChars xs) := by
  match xs with
  | [] => decide
  | x :: xs =>
    exact (Printed.cons (by decide) (.cons (by decide) (printed_chars x))).append
      (printed_itemsChars xs)

/-- So are the fields after the first. -/
theorem printed_fieldsChars (fields : List (Wording × Json)) : Printed (fieldsChars fields) := by
  match fields with
  | [] => decide
  | (key, value) :: fields =>
    have h_key : Printed (',' :: ' ' :: key.chars) :=
      .cons (by decide) (.cons (by decide) (printed_wording key))
    have h_value : Printed (':' :: ' ' :: chars value) :=
      .cons (by decide) (.cons (by decide) (printed_chars value))
    exact (h_key.append h_value).append (printed_fieldsChars fields)

end

/-! ## A value inside an object -/

theorem fieldsChars_append (front : List (Wording × Json)) :
    ∃ before, ∀ rest, fieldsChars (front ++ rest) = before ++ fieldsChars rest := by
  induction front with
  | nil => exact ⟨[], fun _ => rfl⟩
  | cons field front ih =>
    obtain ⟨before, h_before⟩ := ih
    refine ⟨',' :: ' ' :: field.1.chars ++ ':' :: ' ' :: chars field.2 ++ before,
      fun rest => ?_⟩
    rw [List.cons_append, fieldsChars, h_before]
    simp only [List.append_assoc]

/-- What is printed around a value in an object does not depend on the value. -/
theorem chars_object_around (front back : List (Wording × Json)) (key : Wording) :
    ∃ before after, ∀ value,
      chars (.object (front ++ (key, value) :: back)) = before ++ (chars value ++ after) := by
  cases front with
  | nil =>
    refine ⟨'\x7b' :: key.chars ++ [':', ' '], fieldsChars back, fun value => ?_⟩
    simp [chars]
  | cons field front =>
    obtain ⟨before, h_before⟩ := fieldsChars_append front
    refine ⟨'\x7b' :: field.1.chars ++ ':' :: ' ' :: chars field.2 ++ before ++
      ',' :: ' ' :: key.chars ++ [':', ' '], fieldsChars back, fun value => ?_⟩
    rw [List.cons_append, chars, h_before, fieldsChars]
    simp

end ImageIntake.Json
