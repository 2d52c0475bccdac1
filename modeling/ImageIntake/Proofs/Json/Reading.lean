/-
  ImageIntake.Proofs.Json.Reading

  A value that was printed is read back (`read?_print`), unless it holds a number with a
  fraction, or a text with both halves of a surrogate pair that were written one by one.  A
  whole number is read to its last digit (`takeNumber_intChars`), and a list or an object part
  by part, its bound on steps being the length of what is read (`takeValue_chars`).
-/

import Mathlib.Data.List.TakeDrop
import ImageIntake.Proofs.Json.Texts
import ImageIntake.Proofs.Number.Whole

namespace ImageIntake.Json

open ImageIntake.Text ImageIntake.Number

/-! ## Values that are read back -/

mutual

/-- Whether a value is made of texts, whole numbers, truth values, nulls, lists and objects, and every
text in it is written as no other one is. -/
def isExact : Json → Bool
  | .null | .bool _ | .int _ | .text _ => true
  | .real _ => false
  | .broken codes => (Wording.broken codes).isExact
  | .list items => allExact items
  | .object fields => fieldsExact fields

/-- Whether all values of a list are such. -/
def allExact : List Json → Bool
  | [] => true
  | x :: xs => isExact x && allExact xs

/-- Whether the keys and the values of all fields are such. -/
def fieldsExact : List (Wording × Json) → Bool
  | [] => true
  | (key, x) :: rest => key.isExact && isExact x && fieldsExact rest

end

theorem fieldsExact_iff {fields : List (Wording × Json)} :
    fieldsExact fields = true ↔
      ∀ field ∈ fields, field.1.isExact = true ∧ field.2.isExact = true := by
  induction fields with
  | nil => exact iff_of_true rfl fun _ h_mem => nomatch h_mem
  | cons field rest ih =>
    rw [fieldsExact, Bool.and_eq_true, Bool.and_eq_true, ih, List.forall_mem_cons]

theorem isExact_toJson (w : Wording) : w.toJson.isExact = w.isExact := by
  cases w <;> rfl

/-! ## Numbers -/

/-- What comes after a value inside a printed one. -/
inductive EndsValue : List Char → Prop
  | nil : EndsValue []
  | comma (rest : List Char) : EndsValue (',' :: rest)
  | bracket (rest : List Char) : EndsValue (']' :: rest)
  | brace (rest : List Char) : EndsValue ('\x7d' :: rest)

theorem takeDigits_toDigits (n : Nat) {rest : List Char} (h : EndsValue rest) :
    takeDigits (Nat.toDigits 10 n ++ rest) = (Nat.toDigits 10 n, rest) := by
  have h_digits : ∀ c ∈ Nat.toDigits 10 n, c.isDigit = true := fun c h_mem => isDigit_of_mem h_mem
  have h_stop : rest.takeWhile Char.isDigit = [] ∧ rest.dropWhile Char.isDigit = rest := by
    cases h <;> exact ⟨rfl, rfl⟩
  rw [takeDigits, List.span_eq_takeWhile_dropWhile, List.takeWhile_append_of_pos h_digits,
    List.dropWhile_append_of_pos h_digits, h_stop.1, h_stop.2, List.append_nil]

/-- A whole number is read to its last digit. -/
theorem takeMagnitude_toDigits (negative : Bool) (n : Nat) {rest : List Char} (h : EndsValue rest) :
    takeMagnitude negative (Nat.toDigits 10 n ++ rest) = some (.int (signed negative n), rest) := by
  have h_value : digitsValue (Nat.toDigits 10 n) = n := ofDigits_toDigits n
  have h_exponent : takeExponent rest = none := by
    cases h <;> rfl
  unfold takeMagnitude
  rw [takeDigits_toDigits n h]
  obtain ⟨first, more, h_some⟩ := List.exists_cons_of_ne_nil (Nat.toDigits_ne_nil (b := 10) (n := n))
  rw [h_some] at h_value ⊢
  -- What follows is no point, so that there is no fraction.
  cases h <;> simp [h_exponent, h_value]

theorem takeWord_of_ne {word : String} {first c : Char} {more rest : List Char}
    (h_word : word.toList = first :: more) (h : first ≠ c) : takeWord word (c :: rest) = none := by
  have h_not : (first == c) = false := beq_eq_false_iff_ne.mpr h
  rw [takeWord, h_word, List.isPrefixOf, h_not, Bool.false_and, if_neg Bool.false_ne_true]

/-- Characters that start a number: a minus and the digits. -/
def StartsNumber (c : Char) : Prop := c = '-' ∨ c.isDigit = true

theorem StartsNumber.ne {c d : Char} (h : StartsNumber c) (h_d : d ≠ '-' ∧ d.isDigit = false) :
    d ≠ c := by
  rintro rfl
  rcases h with h_minus | h_digit
  · exact h_d.1 h_minus
  · rw [h_d.2] at h_digit
    cases h_digit

/-- No word that names a value starts like a number. -/
theorem takeNamed_of_startsNumber {c : Char} (h : StartsNumber c) (rest : List Char) :
    takeNamed (c :: rest) = none := by
  have h_word (word : String) {first : Char} {more : List Char}
      (h_word : word.toList = first :: more) (h_first : first ≠ '-' ∧ first.isDigit = false) :
      takeWord word (c :: rest) = none :=
    takeWord_of_ne h_word (h.ne h_first)
  unfold takeNamed
  dsimp only
  rw [h_word "null" rfl (by decide), h_word "true" rfl (by decide), h_word "false" rfl (by decide),
    h_word "NaN" rfl (by decide), h_word "Infinity" rfl (by decide)]
  rfl

theorem intChars_eq_cons (n : Int) : ∃ c cs, intChars n = c :: cs ∧ StartsNumber c := by
  unfold intChars
  split
  case isTrue => exact ⟨'-', _, rfl, .inl rfl⟩
  case isFalse =>
    obtain ⟨c, cs, h_some⟩ := List.exists_cons_of_ne_nil (Nat.toDigits_ne_nil (b := 10) (n := n.natAbs))
    rw [h_some]
    exact ⟨c, cs, rfl, .inr (isDigit_of_mem (n := n.natAbs) (by simp [h_some]))⟩

theorem takeNumber_intChars (n : Int) {rest : List Char} (h : EndsValue rest) :
    takeNumber (intChars n ++ rest) = some (.int n, rest) := by
  obtain ⟨c, cs, h_some⟩ := List.exists_cons_of_ne_nil (Nat.toDigits_ne_nil (b := 10) (n := n.natAbs))
  have h_digit : c.isDigit = true := isDigit_of_mem (n := n.natAbs) (by simp [h_some])
  have h_read (negative : Bool) := takeMagnitude_toDigits negative n.natAbs h
  rw [h_some, List.cons_append] at h_read
  unfold intChars takeNumber
  rw [h_some]
  by_cases h_negative : n < 0
  · rw [if_pos h_negative]
    have h_infinity : takeWord "Infinity" (c :: (cs ++ rest)) = none := by
      have h_first : 'I' ≠ c := by
        rintro rfl
        cases h_digit
      exact takeWord_of_ne rfl h_first
    have h_signed : signed true n.natAbs = n := by
      unfold signed
      rw [if_pos rfl]
      omega
    simp only [List.cons_append, h_infinity, h_read, h_signed]
  · rw [if_neg h_negative]
    have h_signed : signed false n.natAbs = n := by
      unfold signed
      rw [if_neg Bool.false_ne_true]
      omega
    rw [List.cons_append]
    split
    next h_eq =>
      rw [(List.cons.inj h_eq).1] at h_digit
      cases h_digit
    next => rw [h_read, h_signed]

/-! ## Values -/

theorem skipSpace_of_not_isSpace {c : Char} (h : isSpace c = false) (rest : List Char) :
    skipSpace (c :: rest) = c :: rest := by
  rw [skipSpace, List.dropWhile_cons_of_neg (by rw [h]; exact Bool.false_ne_true)]

theorem StartsNumber.isSpace {c : Char} (h : StartsNumber c) : Json.isSpace c = false := by
  simp only [Json.isSpace, Bool.or_eq_false_iff, decide_eq_false_iff_not]
  exact ⟨⟨⟨(h.ne (by decide)).symm, (h.ne (by decide)).symm⟩, (h.ne (by decide)).symm⟩,
    (h.ne (by decide)).symm⟩

/-- The first character of a value is no blank and closes no list. -/
theorem chars_eq_cons (j : Json) (h : j.isExact = true) :
    ∃ c cs, chars j = c :: cs ∧ isSpace c = false ∧ c ≠ ']' := by
  match j with
  | .null | .bool true | .bool false | .text _ | .broken _ | .list [] | .list (_ :: _) | .object []
  | .object (_ :: _) => exact ⟨_, _, rfl, by decide, by decide⟩
  | .int n =>
    obtain ⟨c, cs, h_chars, h_first⟩ := intChars_eq_cons n
    exact ⟨c, cs, h_chars, h_first.isSpace, (h_first.ne (by decide)).symm⟩
  | .real _ => cases h

/-- A value is read behind a blank as without it. -/
theorem takeValue_space (fuel : Nat) (cs : List Char) :
    takeValue fuel (' ' :: cs) = takeValue fuel cs := by
  cases fuel with
  | zero => simp [takeValue]
  | succ fuel =>
    rw [takeValue, takeValue]
    rfl

/-- A field is read behind a blank as without it. -/
theorem takeField_space (fuel : Nat) (cs : List Char) :
    takeField fuel (' ' :: cs) = takeField fuel cs := by
  cases fuel with
  | zero => simp [takeField]
  | succ fuel =>
    rw [takeField, takeField]
    rfl

theorem takeValue_int (fuel : Nat) (n : Int) {rest : List Char} (h : EndsValue rest) :
    takeValue (fuel + 1) (intChars n ++ rest) = some (.int n, rest) := by
  have h_number := takeNumber_intChars n h
  obtain ⟨c, cs, h_chars, h_first⟩ := intChars_eq_cons n
  rw [h_chars, List.cons_append] at h_number ⊢
  rw [takeValue, skipSpace_of_not_isSpace h_first.isSpace]
  split
  next h_eq => exact absurd (List.cons.inj h_eq).1.symm (h_first.ne (by decide))
  next h_eq => exact absurd (List.cons.inj h_eq).1.symm (h_first.ne (by decide))
  next h_eq => exact absurd (List.cons.inj h_eq).1.symm (h_first.ne (by decide))
  next => rw [takeNamed_of_startsNumber h_first, h_number]; rfl

theorem takeValue_wording {fuel : Nat} {w : Wording} (h_exact : w.isExact = true) (rest : List Char)
    (h : w.chars.length ≤ fuel + 1) :
    takeValue (fuel + 1) (w.chars ++ rest) = some (w.toJson, rest) := by
  obtain ⟨codes, body, h_body, h_take, rfl⟩ := Wording.takeText_chars h_exact rest h
  rw [h_body, takeValue, skipSpace_of_not_isSpace (by decide)]
  simp only [h_take, Option.map_some, ofCodes]

/-- A list is read back from its items. -/
theorem takeValue_list {fuel : Nat} {x : Json} {xs : List Json} {rest : List Char}
    (h_exact : x.isExact = true)
    (h_value : takeValue fuel (chars x ++ (itemsChars xs ++ rest)) = some (x, itemsChars xs ++ rest))
    (h_items : takeItems fuel (itemsChars xs ++ rest) = some (xs, rest)) :
    takeValue (fuel + 1) (chars (.list (x :: xs)) ++ rest) = some (.list (x :: xs), rest) := by
  obtain ⟨c, cs, h_chars, h_space, h_close⟩ := chars_eq_cons x h_exact
  have h_list : chars (.list (x :: xs)) ++ rest = '[' :: (chars x ++ (itemsChars xs ++ rest)) := by
    simp [chars]
  rw [h_list, takeValue, skipSpace_of_not_isSpace (by decide)]
  rw [h_chars, List.cons_append] at h_value ⊢
  simp only [skipSpace_of_not_isSpace h_space]
  split
  next h_eq => exact absurd (List.cons.inj h_eq).1 h_close
  next => simp [h_value, h_items]

/-- A field is read back from its value. -/
theorem takeField_fieldChars {key : Wording} {fuel : Nat} {value : Json} {rest : List Char}
    (h_exact : key.isExact = true) (h_key : key.chars.length ≤ fuel + 1)
    (h_value : takeValue fuel (chars value ++ rest) = some (value, rest)) :
    takeField (fuel + 1) (key.chars ++ ':' :: ' ' :: (chars value ++ rest)) =
      some ((key, value), rest) := by
  obtain ⟨codes, body, h_body, h_take, rfl⟩ :=
    Wording.takeText_chars h_exact (':' :: ' ' :: (chars value ++ rest)) h_key
  rw [h_body, takeField, skipSpace_of_not_isSpace (by decide)]
  have h_colon := skipSpace_of_not_isSpace (c := ':') (by decide) (' ' :: (chars value ++ rest))
  simp [h_take, h_colon, takeValue_space, h_value]

/-- An object is read back from its fields. -/
theorem takeValue_object {fuel : Nat} {key : Wording} {value : Json}
    {fields : List (Wording × Json)} {rest : List Char}
    (h_field : takeField fuel (key.chars ++ ':' :: ' ' ::
        (chars value ++ (fieldsChars fields ++ rest))) = some ((key, value), fieldsChars fields ++ rest))
    (h_fields : takeFields fuel (fieldsChars fields ++ rest) = some (fields, rest)) :
    takeValue (fuel + 1) (chars (.object ((key, value) :: fields)) ++ rest) =
      some (.object ((key, value) :: fields), rest) := by
  have h_chars : chars (.object ((key, value) :: fields)) ++ rest =
      '\x7b' :: (key.chars ++ ':' :: ' ' :: (chars value ++ (fieldsChars fields ++ rest))) := by
    simp [chars]
  obtain ⟨body, h_body⟩ : ∃ body, key.chars ++ ':' :: ' ' ::
      (chars value ++ (fieldsChars fields ++ rest)) = '"' :: body := by
    cases key <;> exact ⟨_, rfl⟩
  rw [h_body] at h_chars h_field
  rw [h_chars, takeValue, skipSpace_of_not_isSpace (by decide)]
  have h_quote := skipSpace_of_not_isSpace (c := '"') (by decide) body
  simp [h_quote, h_field, h_fields]

theorem itemsChars_cons_append (x : Json) (xs : List Json) (rest : List Char) :
    itemsChars (x :: xs) ++ rest = ',' :: ' ' :: (chars x ++ (itemsChars xs ++ rest)) := by
  simp [itemsChars]

theorem fieldsChars_cons_append (key : Wording) (value : Json) (fields : List (Wording × Json))
    (rest : List Char) :
    fieldsChars ((key, value) :: fields) ++ rest =
      ',' :: ' ' :: (key.chars ++ ':' :: ' ' ::
        (chars value ++ (fieldsChars fields ++ rest))) := by
  simp [fieldsChars]

theorem endsValue_itemsChars (xs : List Json) (rest : List Char) :
    EndsValue (itemsChars xs ++ rest) := by
  cases xs with
  | nil => exact .bracket rest
  | cons x xs => exact .comma _

theorem endsValue_fieldsChars (fields : List (Wording × Json)) (rest : List Char) :
    EndsValue (fieldsChars fields ++ rest) := by
  cases fields with
  | nil => exact .brace rest
  | cons field fields => exact .comma _

mutual

/-- A value is read back, and takes fewer steps than it has characters. -/
theorem takeValue_chars (j : Json) (fuel : Nat) {rest : List Char} (h_exact : j.isExact = true)
    (h_fuel : (chars j).length ≤ fuel) (h_rest : EndsValue rest) :
    takeValue fuel (chars j ++ rest) = some (j, rest) := by
  obtain ⟨c, cs, h_chars, h_space, h_close⟩ := chars_eq_cons j h_exact
  obtain ⟨fuel, rfl⟩ : ∃ n, fuel = n + 1 := by
    rw [h_chars, List.length_cons] at h_fuel
    exact Nat.exists_eq_succ_of_ne_zero (by omega)
  match j with
  | .null | .bool true | .bool false | .list [] | .object [] => rw [takeValue]; rfl
  | .int n => exact takeValue_int fuel n h_rest
  | .text s => exact takeValue_wording (w := .text s) rfl rest h_fuel
  | .broken codes => exact takeValue_wording (w := .broken codes) h_exact rest h_fuel
  | .real _ => cases h_exact
  | .list (x :: xs) =>
    rw [isExact, allExact, Bool.and_eq_true] at h_exact
    rw [chars, List.cons_append, List.length_cons, List.length_append] at h_fuel
    exact takeValue_list h_exact.1
      (takeValue_chars x fuel h_exact.1 (by omega) (endsValue_itemsChars xs rest))
      (takeItems_itemsChars xs fuel rest h_exact.2 (by omega))
  | .object ((key, value) :: fields) =>
    rw [isExact, fieldsExact, Bool.and_eq_true, Bool.and_eq_true] at h_exact
    obtain ⟨⟨h_key, h_value⟩, h_fields⟩ := h_exact
    simp only [chars, List.cons_append, List.append_assoc, List.length_cons,
      List.length_append] at h_fuel
    obtain ⟨fuel, rfl⟩ : ∃ n, fuel = n + 1 := Nat.exists_eq_succ_of_ne_zero (by omega)
    -- The key is read with the bound of the field, the value with one less.
    have h_taken := takeValue_chars value fuel h_value (by omega) (endsValue_fieldsChars fields rest)
    exact takeValue_object (takeField_fieldChars h_key (by omega) h_taken)
      (takeFields_fieldsChars fields (fuel + 1) rest h_fields (by omega))

/-- The items after the first are read back. -/
theorem takeItems_itemsChars (xs : List Json) (fuel : Nat) (rest : List Char)
    (h_exact : allExact xs = true) (h_fuel : (itemsChars xs).length ≤ fuel) :
    takeItems fuel (itemsChars xs ++ rest) = some (xs, rest) := by
  match xs, fuel with
  | [], fuel + 1 => rw [takeItems]; rfl
  | x :: xs, fuel + 1 =>
    rw [allExact, Bool.and_eq_true] at h_exact
    simp only [itemsChars, List.cons_append, List.length_cons, List.length_append] at h_fuel
    have h_value := takeValue_chars x fuel h_exact.1 (by omega) (endsValue_itemsChars xs rest)
    have h_items := takeItems_itemsChars xs fuel rest h_exact.2 (by omega)
    rw [itemsChars_cons_append, takeItems, skipSpace_of_not_isSpace (by decide)]
    simp [takeValue_space, h_value, h_items]

/-- The fields after the first are read back. -/
theorem takeFields_fieldsChars (fields : List (Wording × Json)) (fuel : Nat) (rest : List Char)
    (h_exact : fieldsExact fields = true) (h_fuel : (fieldsChars fields).length ≤ fuel) :
    takeFields fuel (fieldsChars fields ++ rest) = some (fields, rest) := by
  match fields, fuel with
  | [], fuel + 1 => rw [takeFields]; rfl
  | (key, value) :: fields, fuel + 1 =>
    rw [fieldsExact, Bool.and_eq_true, Bool.and_eq_true] at h_exact
    obtain ⟨⟨h_key, h_value⟩, h_rest⟩ := h_exact
    simp only [fieldsChars, List.cons_append, List.append_assoc, List.length_cons,
      List.length_append] at h_fuel
    obtain ⟨fuel, rfl⟩ : ∃ n, fuel = n + 1 := Nat.exists_eq_succ_of_ne_zero (by omega)
    have h_taken := takeValue_chars value fuel h_value (by omega) (endsValue_fieldsChars fields rest)
    have h_field := takeField_fieldChars h_key (by omega) h_taken
    have h_fields := takeFields_fieldsChars fields (fuel + 1) rest h_rest (by omega)
    rw [fieldsChars_cons_append, takeFields, skipSpace_of_not_isSpace (by decide)]
    simp [takeField_space, h_field, h_fields]

end

/-- A value of such texts, whole numbers, truth values, nulls, lists and objects is read back from its
text. -/
theorem read?_print {j : Json} (h : j.isExact = true) : read? j.print = some j := by
  have h_take := takeValue_chars j (2 * (chars j).length + 2) h (by omega) .nil
  rw [List.append_nil] at h_take
  rw [read?, print, String.toList_ofList, h_take]
  rfl

end ImageIntake.Json
