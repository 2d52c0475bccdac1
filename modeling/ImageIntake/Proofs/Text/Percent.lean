/-
  ImageIntake.Proofs.Text.Percent

  Escaping and unescaping.  An encoder that keeps `%` and the hexadecimal digits
  keeps the escapes a text already holds, so that the text is unescaped to what it
  was unescaped to before (`percentDecode_percentEncode`).  That is the text itself
  where it holds no escape (`percentDecode_of_not_holdsEscape`), and a shorter one
  where it does (`length_percentBytes_lt`): three characters become one byte.
-/

import Mathlib.Tactic.IntervalCases
import ImageIntake.Proofs.Text.Utf8
import ImageIntake.Text.Percent

namespace ImageIntake.Text

/-! ## Escapes in a text -/

/-- Whether two hexadecimal digits stand first. -/
def startsPair : List Char → Bool
  | a :: b :: _ => (hexDigit? a).isSome && (hexDigit? b).isSome
  | _ => false

/-- Whether a percent sign stands before two hexadecimal digits somewhere. -/
def holdsEscape : List Char → Bool
  | [] => false
  | c :: rest => (c = '%' && startsPair rest) || holdsEscape rest

theorem hexDigit?_toUpper_hexDigit {n : Nat} (h : n < 16) :
    hexDigit? (hexDigit n).toUpper = some n := by
  interval_cases n <;> rfl

theorem startsPair_cons_cons (a b : Char) (rest : List Char) :
    startsPair (a :: b :: rest) = ((hexDigit? a).isSome && (hexDigit? b).isSome) := rfl

theorem startsPair_eq_true {rest : List Char} (h : startsPair rest = true) :
    ∃ a b x y more, rest = a :: b :: more ∧ hexDigit? a = some x ∧ hexDigit? b = some y := by
  match rest with
  | a :: b :: more =>
    rw [startsPair_cons_cons, Bool.and_eq_true] at h
    obtain ⟨x, h_a⟩ := Option.isSome_iff_exists.mp h.1
    obtain ⟨y, h_b⟩ := Option.isSome_iff_exists.mp h.2
    exact ⟨a, b, x, y, more, rfl, h_a, h_b⟩

/-! ## One step of unescaping -/

theorem percentBytes_escape {a b : Char} {x y : Nat} (h_a : hexDigit? a = some x)
    (h_b : hexDigit? b = some y) (rest : List Char) :
    percentBytes ('%' :: a :: b :: rest) = UInt8.ofNat (x * 16 + y) :: percentBytes rest := by
  rw [percentBytes]
  simp only [h_a, h_b]

theorem percentBytes_plain {c : Char} (h : c ≠ '%') (rest : List Char) :
    percentBytes (c :: rest) = String.utf8EncodeChar c ++ percentBytes rest := by
  rw [percentBytes, utf8_singleton]
  intro a b more h_c
  exact absurd h_c h

theorem percentBytes_percent {rest : List Char} (h : startsPair rest = false) :
    percentBytes ('%' :: rest) = 0x25 :: percentBytes rest := by
  have h_byte : utf8 (String.singleton '%') = [0x25] := by
    rw [utf8_singleton]
    rfl
  match rest with
  | [] =>
    rw [percentBytes, h_byte]
    · rfl
    · simp
  | [a] =>
    rw [percentBytes, h_byte]
    · rfl
    · simp
  | a :: b :: more =>
    rw [percentBytes]
    cases h_a : hexDigit? a with
    | none => rfl
    | some x =>
      cases h_b : hexDigit? b with
      | none => rfl
      | some y =>
        rw [startsPair, h_a, h_b] at h
        contradiction

theorem percentBytes_percentByte (b : UInt8) (rest : List Char) :
    percentBytes (percentByte b ++ rest) = b :: percentBytes rest := by
  have h_b := b.toNat_lt
  have h_byte : UInt8.ofNat (b.toNat / 16 * 16 + b.toNat % 16) = b := by
    rw [Nat.div_add_mod']
    exact UInt8.ofNat_toNat
  rw [percentByte, List.cons_append, List.cons_append, List.cons_append, List.nil_append,
    percentBytes_escape (hexDigit?_toUpper_hexDigit (by omega))
      (hexDigit?_toUpper_hexDigit (by omega)), h_byte]

theorem percentBytes_escaped (bytes : Bytes) (rest : List Char) :
    percentBytes (bytes.flatMap percentByte ++ rest) = bytes ++ percentBytes rest := by
  induction bytes with
  | nil => rfl
  | cons b bytes ih =>
    rw [List.flatMap_cons, List.append_assoc, percentBytes_percentByte, ih, List.cons_append]

/-- A text is unescaped from left to right: an escape becomes a byte, and any other character
stands for itself. -/
theorem unescaping_cases {motive : List Char → Prop} (nil : motive [])
    (escape : ∀ a b rest x y, hexDigit? a = some x → hexDigit? b = some y → motive rest →
      motive ('%' :: a :: b :: rest))
    (percent : ∀ rest, startsPair rest = false → motive rest → motive ('%' :: rest))
    (plain : ∀ c rest, c ≠ '%' → motive rest → motive (c :: rest)) (cs : List Char) :
    motive cs := by
  match cs with
  | [] => exact nil
  | c :: rest =>
    by_cases h_c : c = '%'
    · subst h_c
      cases h_pair : startsPair rest with
      | true =>
        obtain ⟨a, b, x, y, more, rfl, h_a, h_b⟩ := startsPair_eq_true h_pair
        exact escape a b more x y h_a h_b (unescaping_cases nil escape percent plain more)
      | false => exact percent rest h_pair (unescaping_cases nil escape percent plain rest)
    · exact plain c rest h_c (unescaping_cases nil escape percent plain rest)
  termination_by cs.length

/-! ## Encoders that keep escapes -/

/-- Whether an encoder leaves percent signs and hexadecimal digits as they are. -/
structure KeepsEscapes (safe : Char → Bool) : Prop where
  percent : safe '%' = true
  digit : ∀ c, (hexDigit? c).isSome = true → safe c = true

theorem percentChar_of_safe {safe : Char → Bool} {c : Char} (h : safe c = true) :
    percentChar safe c = [c] :=
  if_pos h

theorem percentChar_of_not_safe {safe : Char → Bool} {c : Char} (h : safe c = false) :
    percentChar safe c = (String.utf8EncodeChar c).flatMap percentByte := by
  have h_not : ¬safe c = true := by
    rw [h]
    exact Bool.false_ne_true
  rw [percentChar, if_neg h_not, utf8_singleton]

theorem flatMap_percentChar_of_safe {safe : Char → Bool} {cs : List Char}
    (h : ∀ c ∈ cs, safe c = true) : cs.flatMap (percentChar safe) = cs := by
  induction cs with
  | nil => rfl
  | cons c rest ih =>
    rw [List.flatMap_cons, percentChar_of_safe (h c List.mem_cons_self),
      ih fun d h_mem => h d (List.mem_cons_of_mem c h_mem), List.singleton_append]

theorem percentChar_head {safe : Char → Bool} {c : Char} (h : safe c = false) :
    ∃ more, percentChar safe c = '%' :: more := by
  obtain ⟨b, tails, h_bytes, -⟩ := takeChar_encoded c
  rw [percentChar_of_not_safe h, h_bytes, List.flatMap_cons, percentByte]
  exact ⟨_, rfl⟩

/-- Escapes are made of percent signs and hexadecimal digits. -/
theorem of_mem_percentChar {safe : Char → Bool} {c d : Char} (h : safe c = false)
    (h_mem : d ∈ percentChar safe c) : d = '%' ∨ (hexDigit? d).isSome = true := by
  rw [percentChar_of_not_safe h] at h_mem
  obtain ⟨b, -, h_mem⟩ := List.mem_flatMap.mp h_mem
  have h_b := b.toNat_lt
  have h_high := hexDigit?_toUpper_hexDigit (show b.toNat / 16 < 16 by omega)
  have h_low := hexDigit?_toUpper_hexDigit (show b.toNat % 16 < 16 by omega)
  simp only [percentByte, List.mem_cons, List.not_mem_nil, or_false] at h_mem
  rcases h_mem with rfl | rfl | rfl
  · exact .inl rfl
  · exact .inr (Option.isSome_of_eq_some h_high)
  · exact .inr (Option.isSome_of_eq_some h_low)

/-- A text that is encoded without a percent sign is safe. -/
theorem safe_of_not_mem_encoded {safe : Char → Bool} {cs : List Char}
    (h : '%' ∉ cs.flatMap (percentChar safe)) : ∀ c ∈ cs, safe c = true := by
  intro c h_mem
  by_contra h_c
  obtain ⟨more, h_head⟩ := percentChar_head (Bool.eq_false_iff.mpr h_c)
  refine h (List.mem_flatMap.mpr ⟨c, h_mem, ?_⟩)
  rw [h_head]
  exact List.mem_cons_self

theorem startsPair_percent (rest : List Char) : startsPair ('%' :: rest) = false := by
  cases rest <;> rfl

theorem startsPair_second_percent (a : Char) (rest : List Char) :
    startsPair (a :: '%' :: rest) = false := by
  rw [startsPair_cons_cons]
  exact Bool.and_false _

namespace KeepsEscapes

variable {safe : Char → Bool} (h : KeepsEscapes safe)

include h

theorem no_digit {c : Char} (h_not : safe c = false) : (hexDigit? c).isSome = false := by
  by_contra h_digit
  have h_kept := h.digit c (Bool.eq_true_of_not_eq_false h_digit)
  rw [h_not] at h_kept
  exact Bool.false_ne_true h_kept

/-- What stands first in a text is a pair of digits exactly if that is so in the encoded text. -/
theorem startsPair_encoded (cs : List Char) :
    startsPair (cs.flatMap (percentChar safe)) = startsPair cs := by
  match cs with
  | [] => rfl
  | a :: rest =>
    rw [List.flatMap_cons]
    cases h_a : safe a with
    | false =>
      obtain ⟨more, h_head⟩ := percentChar_head h_a
      rw [h_head, List.cons_append, startsPair_percent]
      cases rest with
      | nil => rfl
      | cons b rest => rw [startsPair_cons_cons, h.no_digit h_a, Bool.false_and]
    | true =>
      rw [percentChar_of_safe h_a, List.singleton_append]
      cases rest with
      | nil => rfl
      | cons b rest =>
        rw [List.flatMap_cons, startsPair_cons_cons]
        cases h_b : safe b with
        | false =>
          obtain ⟨more, h_head⟩ := percentChar_head h_b
          rw [h_head, List.cons_append, startsPair_second_percent, h.no_digit h_b, Bool.and_false]
        | true =>
          rw [percentChar_of_safe h_b, List.singleton_append, startsPair_cons_cons]

/-- An encoded text consists of safe characters. -/
theorem safe_of_mem_encoded {c : Char} {cs : List Char} (h_mem : c ∈ cs.flatMap (percentChar safe)) :
    safe c = true := by
  obtain ⟨original, -, h_mem⟩ := List.mem_flatMap.mp h_mem
  cases h_kept : safe original with
  | true =>
    rw [percentChar_of_safe h_kept, List.mem_singleton] at h_mem
    rw [h_mem, h_kept]
  | false =>
    rcases of_mem_percentChar h_kept h_mem with rfl | h_digit
    · exact h.percent
    · exact h.digit c h_digit

theorem percentBytes_encoded (cs : List Char) :
    percentBytes (cs.flatMap (percentChar safe)) = percentBytes cs := by
  induction cs using unescaping_cases with
  | nil => rfl
  | escape a b rest x y h_a h_b ih =>
    have h_safe_a := h.digit a (Option.isSome_of_eq_some h_a)
    have h_safe_b := h.digit b (Option.isSome_of_eq_some h_b)
    rw [List.flatMap_cons, List.flatMap_cons, List.flatMap_cons, percentChar_of_safe h.percent,
      percentChar_of_safe h_safe_a, percentChar_of_safe h_safe_b, List.singleton_append,
      List.singleton_append, List.singleton_append, percentBytes_escape h_a h_b, ih,
      percentBytes_escape h_a h_b]
  | percent rest h_pair ih =>
    have h_encoded : startsPair (rest.flatMap (percentChar safe)) = false := by
      rw [h.startsPair_encoded, h_pair]
    rw [List.flatMap_cons, percentChar_of_safe h.percent, List.singleton_append,
      percentBytes_percent h_encoded, ih, percentBytes_percent h_pair]
  | plain c rest h_c ih =>
    rw [List.flatMap_cons, percentBytes_plain h_c]
    cases h_kept : safe c with
    | true => rw [percentChar_of_safe h_kept, List.singleton_append, percentBytes_plain h_c, ih]
    | false => rw [percentChar_of_not_safe h_kept, percentBytes_escaped, ih]

/-- An encoded text is unescaped to what the text itself is unescaped to. -/
theorem percentDecode_percentEncode (s : String) :
    percentDecode (percentEncode safe s) = percentDecode s := by
  rw [percentDecode, percentEncode, String.toList_ofList, h.percentBytes_encoded, percentDecode]

end KeepsEscapes

/-! ## Texts with and without escapes -/

theorem holdsEscape_cons (c : Char) (rest : List Char) :
    holdsEscape (c :: rest) = ((c = '%' && startsPair rest) || holdsEscape rest) := rfl

theorem percentBytes_of_not_holdsEscape {cs : List Char} (h : holdsEscape cs = false) :
    percentBytes cs = cs.flatMap String.utf8EncodeChar := by
  induction cs with
  | nil => rw [percentBytes, List.flatMap_nil]
  | cons c rest ih =>
    rw [holdsEscape_cons, Bool.or_eq_false_iff] at h
    rw [List.flatMap_cons, ← ih h.2]
    by_cases h_c : c = '%'
    · subst h_c
      have h_pair : startsPair rest = false := by simpa using h.1
      rw [percentBytes_percent h_pair]
      rfl
    · exact percentBytes_plain h_c rest

/-- A text without escapes stands for itself. -/
theorem percentDecode_of_not_holdsEscape {s : String} (h : holdsEscape s.toList = false) :
    percentDecode s = s := by
  rw [percentDecode, percentBytes_of_not_holdsEscape h, ofUtf8, decodeChars_flatMap,
    String.ofList_toList]

theorem length_percentBytes_le (cs : List Char) :
    (decodeChars (percentBytes cs)).length ≤ cs.length := by
  induction cs using unescaping_cases with
  | nil => rw [percentBytes, decodeChars]
  | escape a b rest x y h_a h_b ih =>
    have h_byte := length_decodeChars_cons_le (UInt8.ofNat (x * 16 + y)) (percentBytes rest)
    rw [percentBytes_escape h_a h_b, List.length_cons, List.length_cons, List.length_cons]
    omega
  | percent rest h_pair ih =>
    have h_byte := length_decodeChars_cons_le 0x25 (percentBytes rest)
    rw [percentBytes_percent h_pair, List.length_cons]
    omega
  | plain c rest h_c ih =>
    rw [percentBytes_plain h_c, decodeChars_encoded, List.length_cons, List.length_cons]
    omega

/-- An escape makes a text longer than what it stands for. -/
theorem length_percentBytes_lt {cs : List Char} (h : holdsEscape cs = true) :
    (decodeChars (percentBytes cs)).length < cs.length := by
  induction cs using unescaping_cases with
  | nil => contradiction
  | escape a b rest x y h_a h_b ih =>
    have h_byte := length_decodeChars_cons_le (UInt8.ofNat (x * 16 + y)) (percentBytes rest)
    have h_rest := length_percentBytes_le rest
    rw [percentBytes_escape h_a h_b, List.length_cons, List.length_cons, List.length_cons]
    omega
  | percent rest h_pair ih =>
    have h_byte := length_decodeChars_cons_le 0x25 (percentBytes rest)
    have h_rest : holdsEscape rest = true := by
      rw [holdsEscape_cons, h_pair, Bool.and_false, Bool.false_or] at h
      exact h
    have h_lt := ih h_rest
    rw [percentBytes_percent h_pair, List.length_cons]
    omega
  | plain c rest h_c ih =>
    have h_rest : holdsEscape rest = true := by
      rw [holdsEscape_cons, decide_eq_false h_c, Bool.false_and, Bool.false_or] at h
      exact h
    have h_lt := ih h_rest
    rw [percentBytes_plain h_c, decodeChars_encoded, List.length_cons, List.length_cons]
    omega

theorem length_percentDecode_le (s : String) : (percentDecode s).length ≤ s.length := by
  rw [percentDecode, ofUtf8, String.length_ofList, ← String.length_toList]
  exact length_percentBytes_le s.toList

theorem length_percentDecode_lt {s : String} (h : holdsEscape s.toList = true) :
    (percentDecode s).length < s.length := by
  rw [percentDecode, ofUtf8, String.length_ofList, ← String.length_toList]
  exact length_percentBytes_lt h

theorem percentBytes_ne_nil {cs : List Char} (h : cs ≠ []) : percentBytes cs ≠ [] := by
  cases cs using unescaping_cases with
  | nil => contradiction
  | escape a b rest x y h_a h_b =>
    rw [percentBytes_escape h_a h_b]
    exact List.cons_ne_nil _ _
  | percent rest h_pair =>
    rw [percentBytes_percent h_pair]
    exact List.cons_ne_nil _ _
  | plain c rest h_c =>
    obtain ⟨b, tails, h_bytes, -⟩ := takeChar_encoded c
    rw [percentBytes_plain h_c, h_bytes, List.cons_append]
    exact List.cons_ne_nil _ _

theorem percentDecode_eq_empty_iff (s : String) : percentDecode s = "" ↔ s = "" := by
  constructor
  · intro h
    by_contra h_ne
    have h_list : s.toList ≠ [] := fun h_nil => h_ne (String.toList_eq_nil_iff.mp h_nil)
    obtain ⟨b, rest, h_bytes⟩ := List.exists_cons_of_ne_nil (percentBytes_ne_nil h_list)
    have h_chars := congrArg String.toList h
    rw [percentDecode, h_bytes, ofUtf8, String.toList_ofList, decodeChars_cons] at h_chars
    contradiction
  · rintro rfl
    exact percentDecode_of_not_holdsEscape rfl

end ImageIntake.Text
