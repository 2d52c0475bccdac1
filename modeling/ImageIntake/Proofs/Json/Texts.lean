/-
  ImageIntake.Proofs.Json.Texts

  A text is read back from between its quotes, code point by code point, whichever way
  each of them was written (`takeText_written`).  Halves of surrogate pairs are kept as they
  are, unless a first half stands directly before a second one (`Apart`): the escapes of
  such two are the escape of one character.  This goes for values and for keys alike
  (`Wording.takeText_chars`).
-/

import Mathlib.Data.List.Chain
import ImageIntake.Json.Printer
import ImageIntake.Json.Reader

namespace ImageIntake.Json

open ImageIntake.Text ImageIntake.Number

/-! ## Code points -/

theorem isHighHalf_iff {n : Nat} : isHighHalf n = true ↔ 0xD800 ≤ n ∧ n < 0xDC00 := by
  simp only [isHighHalf, Bool.and_eq_true, decide_eq_true_eq]

theorem isLowHalf_iff {n : Nat} : isLowHalf n = true ↔ 0xDC00 ≤ n ∧ n < 0xE000 := by
  simp only [isLowHalf, Bool.and_eq_true, decide_eq_true_eq]

/-- Code points none of which is the first half of a pair directly before the second half of
one. -/
structure Apart (codes : List Nat) : Prop where
  bounded : ∀ n ∈ codes, n < 0x110000
  chain : codes.IsChain fun n m => ¬(isHighHalf n = true ∧ isLowHalf m = true)

instance (codes : List Nat) : Decidable (Apart codes) :=
  decidable_of_iff ((∀ n ∈ codes, n < 0x110000) ∧
    codes.IsChain fun n m => ¬(isHighHalf n = true ∧ isLowHalf m = true))
    ⟨fun h => ⟨h.1, h.2⟩, fun h => ⟨h.bounded, h.chain⟩⟩

theorem not_isHighHalf_toNat (c : Char) : ¬isHighHalf c.toNat = true := by
  have h_valid : c.toNat < 0xD800 ∨ 0xDFFF < c.toNat ∧ c.toNat < 0x110000 := c.valid
  rw [isHighHalf_iff]
  omega

/-- The characters of a text are whole. -/
theorem Apart.of_chars (cs : List Char) : Apart (cs.map Char.toNat) where
  bounded := by
    refine List.forall_mem_map.mpr fun c _ => ?_
    have h_valid : c.toNat < 0xD800 ∨ 0xDFFF < c.toNat ∧ c.toNat < 0x110000 := c.valid
    omega
  chain := by
    refine (List.isChain_map Char.toNat).mpr (List.Pairwise.isChain ?_)
    exact List.pairwise_of_forall fun c _ h => not_isHighHalf_toNat c h.1

theorem Apart.tail {n : Nat} {codes : List Nat} (h : Apart (n :: codes)) : Apart codes :=
  ⟨fun m h_mem => h.bounded m (List.mem_cons_of_mem n h_mem), h.chain.tail⟩

theorem apart_append {codes more : List Nat} :
    Apart (codes ++ more) ↔ Apart codes ∧ Apart more ∧
      ∀ n ∈ codes.getLast?, ∀ m ∈ more.head?, ¬(isHighHalf n = true ∧ isLowHalf m = true) := by
  constructor
  · rintro ⟨h_bounded, h_chain⟩
    obtain ⟨h_codes, h_more⟩ := List.forall_mem_append.mp h_bounded
    obtain ⟨h_front, h_back, h_between⟩ := List.isChain_append.mp h_chain
    exact ⟨⟨h_codes, h_front⟩, ⟨h_more, h_back⟩, h_between⟩
  · rintro ⟨⟨h_codes, h_front⟩, ⟨h_more, h_back⟩, h_between⟩
    exact ⟨List.forall_mem_append.mpr ⟨h_codes, h_more⟩,
      List.isChain_append.mpr ⟨h_front, h_back, h_between⟩⟩

theorem charOf_toNat (c : Char) : charOf c.toNat = c := by
  have h_valid : c.toNat.isValidChar := c.valid
  rw [charOf, if_pos h_valid, Char.ofNat_toNat]

theorem charOf_comp_toNat : charOf ∘ Char.toNat = id := funext charOf_toNat

/-- The code points of a text are taken for the text. -/
theorem ofCodes_chars (cs : List Char) :
    Wording.ofCodes (cs.map Char.toNat) = .text (String.ofList cs) := by
  have h_valid : (cs.map Char.toNat).all (fun n => decide n.isValidChar) = true := by
    refine List.all_eq_true.mpr (List.forall_mem_map.mpr fun c _ => decide_eq_true ?_)
    exact c.valid
  rw [Wording.ofCodes, if_pos h_valid, List.map_map, charOf_comp_toNat, List.map_id]

/-- Code points are written the same whether or not they are taken for a text. -/
theorem Wording.chars_ofCodes (codes : List Nat) : (ofCodes codes).chars = quotedCodes codes := by
  unfold ofCodes
  split
  case isTrue h_valid =>
    have h_code (n : Nat) (h_mem : n ∈ codes) : charText (charOf n) = codeText n := by
      have h_n := of_decide_eq_true (List.all_eq_true.mp h_valid n h_mem)
      rw [codeText, if_pos h_n, charOf, if_pos h_n]
    rw [Wording.chars, String.toList_ofList, quotedChars, List.flatMap_map, quotedCodes,
      List.flatMap_congr h_code]
  case isFalse => rfl

/-- A text is written the same as a value and as a key. -/
theorem chars_toJson (w : Wording) : chars w.toJson = w.chars := by
  cases w <;> rfl

theorem chars_ofCodes (codes : List Nat) : chars (ofCodes codes) = quotedCodes codes :=
  (chars_toJson _).trans (Wording.chars_ofCodes codes)

theorem codeText_toNat (c : Char) : codeText c.toNat = charText c := by
  have h_valid : c.toNat.isValidChar := c.valid
  rw [codeText, if_pos h_valid, Char.ofNat_toNat]

/-! ## Escapes -/

theorem hexDigit?_digitChar : ∀ d < 16, hexDigit? (Nat.digitChar d) = some d := by
  decide

/-- A 16-bit unit is written as four digits. -/
theorem unitEscape_eq {n : Nat} (h : n < 0x10000) :
    unitEscape n = ['\\', 'u', Nat.digitChar (n / 0x1000), Nat.digitChar (n / 0x100 % 16),
      Nat.digitChar (n / 0x10 % 16), Nat.digitChar (n % 16)] := by
  have h_last {m : Nat} (h_m : m < 16) : Nat.toDigits 16 m = [Nat.digitChar (m % 16)] := by
    rw [Nat.toDigits_of_lt_base h_m, Nat.mod_eq_of_lt h_m]
  have h_more {m : Nat} (h_m : 16 ≤ m) :
      Nat.toDigits 16 m = Nat.toDigits 16 (m / 16) ++ [Nat.digitChar (m % 16)] :=
    Nat.toDigits_of_base_le (by decide) h_m
  have h_zero : Nat.digitChar 0 = '0' := rfl
  unfold unitEscape
  -- The digits that are missing in front are filled with zeros.
  rcases Nat.lt_or_ge n 0x10 with h_one | h_one
  · rw [h_last h_one, show n / 0x1000 = 0 by omega, show n / 0x100 = 0 by omega,
      show n / 0x10 = 0 by omega, h_zero]
    rfl
  rcases Nat.lt_or_ge n 0x100 with h_two | h_two
  · rw [h_more h_one, h_last (by omega), show n / 0x1000 = 0 by omega, show n / 0x100 = 0 by omega,
      h_zero]
    rfl
  rcases Nat.lt_or_ge n 0x1000 with h_three | h_three
  · rw [h_more h_one, h_more (by omega), h_last (by omega), show n / 0x1000 = 0 by omega,
      Nat.div_div_eq_div_mul, h_zero]
    rfl
  · rw [h_more h_one, h_more (by omega), h_more (by omega), h_last (by omega),
      show n / 16 / 16 / 16 % 16 = n / 0x1000 by omega, show n / 16 / 16 = n / 0x100 by omega]
    rfl

/-- A 16-bit unit is read back from its digits. -/
theorem takeUnit_unitEscape {n : Nat} (h : n < 0x10000) :
    ∃ digits, unitEscape n = '\\' :: 'u' :: digits ∧
      ∀ rest, takeUnit (digits ++ rest) = some (n, rest) := by
  refine ⟨_, unitEscape_eq h, fun rest => ?_⟩
  have h_value : ((n / 0x1000 * 16 + n / 0x100 % 16) * 16 + n / 0x10 % 16) * 16 + n % 16 = n := by
    omega
  simp only [List.cons_append, List.nil_append, takeUnit]
  rw [hexDigit?_digitChar _ (by omega), hexDigit?_digitChar _ (by omega),
    hexDigit?_digitChar _ (by omega), hexDigit?_digitChar _ (by omega)]
  simp only [bind, Option.bind, pure, h_value]

/-- The escape of a second half is found. -/
theorem takeLowHalf_unitEscape {n : Nat} (h : n < 0x10000) (rest : List Char) :
    takeLowHalf (unitEscape n ++ rest) = if isLowHalf n then some (n, rest) else none := by
  obtain ⟨digits, h_digits, h_take⟩ := takeUnit_unitEscape h
  rw [h_digits, List.cons_append, List.cons_append, takeLowHalf, h_take]
  rfl

/-- An escape of one unit is read back, unless it is the first half of a pair. -/
theorem takeEscape_unit {n : Nat} (h : n < 0x10000) :
    ∃ escape, unitEscape n = '\\' :: escape ∧ ∀ rest,
      (isHighHalf n = true → takeLowHalf rest = none) →
      takeEscape (escape ++ rest) = some (n, rest) := by
  obtain ⟨digits, h_digits, h_take⟩ := takeUnit_unitEscape h
  refine ⟨'u' :: digits, h_digits, fun rest h_rest => ?_⟩
  rw [List.cons_append, takeEscape, takeUnits, h_take]
  dsimp only [bind, Option.bind]
  split
  case isTrue h_high => rw [h_rest h_high]; rfl
  case isFalse => rfl

/-- An escape of a pair of units is read back as one code point. -/
theorem takeEscape_pair {high low : Nat} (h_high : isHighHalf high = true)
    (h_low : isLowHalf low = true) :
    ∃ escape, unitEscape high ++ unitEscape low = '\\' :: escape ∧ ∀ rest,
      takeEscape (escape ++ rest) =
        some (0x10000 + (high - 0xD800) * 0x400 + (low - 0xDC00), rest) := by
  have h_highLt := isHighHalf_iff.mp h_high
  have h_lowLt := isLowHalf_iff.mp h_low
  obtain ⟨digits, h_digits, h_take⟩ := takeUnit_unitEscape (n := high) (by omega)
  refine ⟨'u' :: digits ++ unitEscape low, by rw [h_digits]; rfl, fun rest => ?_⟩
  have h_found := takeLowHalf_unitEscape (n := low) (by omega) rest
  rw [if_pos h_low] at h_found
  rw [List.append_assoc, List.cons_append, takeEscape, takeUnits, h_take]
  dsimp only [bind, Option.bind]
  rw [if_pos h_high, h_found]
  rfl

/-! ## Ways to write a code point -/

/-- How a code point can be written inside a text. -/
inductive Written (n : Nat) : List Char → Prop
  | plain {c : Char} (h_code : c.toNat = n) (h_quote : c ≠ '"') (h_slash : c ≠ '\\')
      (h_control : ¬c.toNat < 0x20) : Written n [c]
  | letter {c : Char} (h_unit : c ≠ 'u') (h_read : ∀ rest, takeEscape (c :: rest) = some (n, rest)) :
      Written n ['\\', c]
  | unit (h : n < 0x10000) : Written n (unitEscape n)
  | pair {high low : Nat} (h_high : isHighHalf high = true) (h_low : isLowHalf low = true)
      (h_code : 0x10000 + (high - 0xD800) * 0x400 + (low - 0xDC00) = n) :
      Written n (unitEscape high ++ unitEscape low)

/-- A character is written by a letter, as it is, or by one or two units. -/
theorem written_charText (c : Char) : Written c.toNat (charText c) := by
  by_cases h_letter : c = '"' ∨ c = '\\' ∨ c = '\n' ∨ c = '\r' ∨ c = '\t' ∨ c = '\x08' ∨ c = '\x0c'
  · rcases h_letter with rfl | rfl | rfl | rfl | rfl | rfl | rfl
    all_goals exact .letter (by decide) fun _ => rfl
  · simp only [not_or] at h_letter
    obtain ⟨h_quote, h_slash, h_feed, h_return, h_tab, h_back, h_form⟩ := h_letter
    unfold charText
    rw [if_neg h_quote, if_neg h_slash, if_neg h_feed, if_neg h_return, if_neg h_tab, if_neg h_back,
      if_neg h_form]
    split
    case isTrue h_plain => exact .plain rfl h_quote h_slash (by omega)
    case isFalse =>
      split
      case isTrue h_basic => exact .unit h_basic
      case isFalse h_beyond =>
        have h_valid : c.toNat < 0xD800 ∨ 0xDFFF < c.toNat ∧ c.toNat < 0x110000 := c.valid
        exact .pair (isHighHalf_iff.mpr (by omega)) (isLowHalf_iff.mpr (by omega)) (by omega)

theorem written_codeText {n : Nat} (h : n < 0x110000) : Written n (codeText n) := by
  unfold codeText
  split
  case isTrue h_valid =>
    have h_code : (Char.ofNat n).toNat = n := by
      rw [Char.ofNat, dif_pos h_valid]
      rfl
    have h_written := written_charText (Char.ofNat n)
    rwa [h_code] at h_written
  case isFalse h_half =>
    rw [Nat.isValidChar] at h_half
    exact .unit (by omega)

theorem Written.length_pos {n : Nat} {cs : List Char} (h : Written n cs) : 0 < cs.length := by
  cases h <;> simp [unitEscape]

/-- Only a second half is written as one. -/
theorem takeLowHalf_written {n : Nat} {cs : List Char} (h : Written n cs)
    (h_low : isLowHalf n = false) (rest : List Char) : takeLowHalf (cs ++ rest) = none := by
  cases h with
  | plain _ _ h_slash =>
    unfold takeLowHalf
    split
    next h_eq => exact absurd (List.cons.inj h_eq).1 h_slash
    next => rfl
  | letter h_unit =>
    unfold takeLowHalf
    split
    next h_eq => exact absurd (List.cons.inj (List.cons.inj h_eq).2).1 h_unit
    next => rfl
  | unit h => rw [takeLowHalf_unitEscape h, h_low, if_neg Bool.false_ne_true]
  | @pair high low h_high =>
    have h_highLt := isHighHalf_iff.mp h_high
    have h_notLow : ¬isLowHalf high = true := by
      rw [isLowHalf_iff]
      omega
    rw [List.append_assoc, takeLowHalf_unitEscape (by omega), if_neg h_notLow]

/-- A code point is read back as it was written. -/
theorem takeText_written {n : Nat} {cs : List Char} (h : Written n cs) (fuel : Nat)
    {rest : List Char} (h_rest : isHighHalf n = true → takeLowHalf rest = none) :
    takeText (fuel + 1) (cs ++ rest) =
      (takeText fuel rest).map fun (codes, rest) => (n :: codes, rest) := by
  have h_escape {escape : List Char} (h_take : takeEscape (escape ++ rest) = some (n, rest)) :
      takeText (fuel + 1) ('\\' :: (escape ++ rest)) =
        (takeText fuel rest).map fun (codes, rest) => (n :: codes, rest) := by
    rw [takeText, if_neg (by decide), if_pos rfl, h_take]
    dsimp only [bind, Option.bind]
    cases takeText fuel rest <;> rfl
  cases h with
  | plain h_code h_quote h_slash h_control =>
    rw [List.singleton_append, takeText, if_neg h_quote, if_neg h_slash, if_neg h_control, h_code]
    cases takeText fuel rest <;> rfl
  | @letter c _ h_read => exact @h_escape [c] (h_read rest)
  | unit h =>
    obtain ⟨escape, h_eq, h_take⟩ := takeEscape_unit h
    rw [h_eq]
    exact h_escape (h_take rest h_rest)
  | pair h_high h_low h_code =>
    obtain ⟨escape, h_eq, h_take⟩ := takeEscape_pair h_high h_low
    rw [h_eq]
    exact h_escape (h_code ▸ h_take rest)

/-! ## Texts -/

/-- Code points are read back up to the closing quote. -/
theorem takeText_codes {codes : List Nat} (h : Apart codes) (rest : List Char) {fuel : Nat}
    (h_fuel : codes.length < fuel) :
    takeText fuel (codes.flatMap codeText ++ '"' :: rest) = some (codes, rest) := by
  induction codes generalizing fuel with
  | nil =>
    obtain ⟨fuel, rfl⟩ := Nat.exists_eq_succ_of_ne_zero (Nat.ne_of_gt h_fuel)
    rfl
  | cons n codes ih =>
    obtain ⟨fuel, rfl⟩ := Nat.exists_eq_succ_of_ne_zero (Nat.ne_of_gt (Nat.zero_lt_of_lt h_fuel))
    -- What follows a first half is the closing quote or no second half.
    have h_next : isHighHalf n = true →
        takeLowHalf (codes.flatMap codeText ++ '"' :: rest) = none := by
      intro h_high
      cases codes with
      | nil => rfl
      | cons m codes =>
        have h_low : isLowHalf m = false := by
          simpa [h_high] using (List.isChain_cons_cons.mp h.chain).1
        rw [List.flatMap_cons, List.append_assoc]
        exact takeLowHalf_written (written_codeText (h.bounded m (by simp))) h_low _
    have h_written := written_codeText (h.bounded n List.mem_cons_self)
    rw [List.flatMap_cons, List.append_assoc, takeText_written h_written fuel h_next,
      ih h.tail (Nat.lt_of_succ_lt_succ h_fuel)]
    rfl

/-- A text is written by no fewer characters than it has code points. -/
theorem length_le_flatMap_codeText {codes : List Nat} (h : Apart codes) :
    codes.length ≤ (codes.flatMap codeText).length := by
  induction codes with
  | nil => exact Nat.le_refl 0
  | cons n codes ih =>
    have h_some := (written_codeText (h.bounded n List.mem_cons_self)).length_pos
    have h_rest := ih h.tail
    rw [List.flatMap_cons, List.length_append, List.length_cons]
    omega

/-- A text between its quotes is read back, and takes fewer steps than it has characters. -/
theorem takeText_quotedCodes {codes : List Nat} (h : Apart codes) (rest : List Char) {fuel : Nat}
    (h_fuel : (quotedCodes codes).length ≤ fuel) :
    ∃ body, quotedCodes codes ++ rest = '"' :: body ∧ takeText fuel body = some (codes, rest) := by
  refine ⟨codes.flatMap codeText ++ '"' :: rest, by simp [quotedCodes], takeText_codes h rest ?_⟩
  have h_length := length_le_flatMap_codeText h
  simp only [quotedCodes, List.length_cons, List.length_append] at h_fuel
  omega

/-! ## Texts that are read back -/

/-- Whether a text is written as no other one is: in a broken text no first half of a pair stands
directly before a second one. -/
def Wording.isExact : Wording → Bool
  | .text _ => true
  | .broken codes => decide (Apart codes) && !codes.all fun n => decide n.isValidChar

theorem Wording.isExact_ofCodes {codes : List Nat} (h : Apart codes) :
    (ofCodes codes).isExact = true := by
  unfold ofCodes
  split
  case isTrue => rfl
  case isFalse h_broken => rw [isExact, decide_eq_true h, eq_false_of_ne_true h_broken]; rfl

/-- Such a text is what its code points are taken for. -/
theorem Wording.exists_codes {w : Wording} (h : w.isExact = true) :
    ∃ codes, Apart codes ∧ w = ofCodes codes := by
  cases w with
  | text s =>
    exact ⟨s.toList.map Char.toNat, .of_chars s.toList, by rw [ofCodes_chars, String.ofList_toList]⟩
  | broken codes =>
    rw [isExact, Bool.and_eq_true, decide_eq_true_eq, Bool.not_eq_true'] at h
    refine ⟨codes, h.1, ?_⟩
    rw [ofCodes, h.2, if_neg Bool.false_ne_true]

/-- Such a text is read back from between its quotes, and takes fewer steps than it has
characters. -/
theorem Wording.takeText_chars {w : Wording} (h : w.isExact = true) (rest : List Char) {fuel : Nat}
    (h_fuel : w.chars.length ≤ fuel) :
    ∃ codes body, w.chars ++ rest = '"' :: body ∧ takeText fuel body = some (codes, rest) ∧
      ofCodes codes = w := by
  obtain ⟨codes, h_apart, rfl⟩ := exists_codes h
  rw [chars_ofCodes] at h_fuel ⊢
  obtain ⟨body, h_body, h_take⟩ := takeText_quotedCodes h_apart rest h_fuel
  exact ⟨codes, body, h_body, h_take, rfl⟩

end ImageIntake.Json
