/-
  ImageIntake.Proofs.Host.Encoding

  The characters of a name in its ASCII form.  A label may hold no characters of ASCII but
  small letters, digits and the hyphen (`isPlainCode_of_checkCode`), and the rules are
  applied to an encoded label after it is decoded, which leaves those in front of its last
  hyphen as they are; what stands behind that is digits of base 36
  (`isPlainChar_of_decode`).  So an ASCII form holds nothing else, as long as there are no
  capitals in the label (`isPlainChar_of_asciiLabel`), and the ASCII form of a name nothing
  but that and dots (`of_mem_encodeName`).
-/

import ImageIntake.Host.Name
import ImageIntake.Proofs.Agreement
import ImageIntake.Proofs.Text.Ascii
import ImageIntake.Proofs.Text.RangeTable
import ImageIntake.Proofs.Text.Splitting

namespace ImageIntake.Host

open ImageIntake.Text

/-! ## Plain characters -/

/-- The code points of ASCII that a label may hold. -/
def isPlainCode (n : Nat) : Bool :=
  n == 0x2D || (0x30 ≤ n && n ≤ 0x39) || (0x61 ≤ n && n ≤ 0x7A)

/-- The characters of an ASCII form. -/
def isPlainChar (c : Char) : Bool := isPlainCode c.toNat

/-- Whether a range holds no code points of ASCII but plain ones. -/
def keepsPlain (range : Nat × Nat) : Bool :=
  0x80 ≤ range.1 || [(0x2D, 0x2D), (0x30, 0x39), (0x61, 0x7A)].contains range

theorem isPlainCode_of_contains {table : RangeTable}
    (h : ∀ range ∈ table.ranges, keepsPlain range = true) {n : Nat}
    (h_mem : table.containsCode n = true) (h_ascii : n < 0x80) : isPlainCode n = true := by
  obtain ⟨range, h_range, h_between⟩ := List.any_eq_true.mp h_mem
  have h_keeps := h range h_range
  simp only [keepsPlain, isPlainCode, List.contains_cons, List.contains_nil, Bool.or_eq_true,
    Bool.and_eq_true, decide_eq_true_eq, beq_iff_eq, Prod.ext_iff, Bool.or_false] at *
  omega

theorem isPlainCode_of_permitted {n : Nat} (h : permitted.containsCode n = true)
    (h_ascii : n < 0x80) : isPlainCode n = true := by
  refine isPlainCode_of_contains (fun range h_range => ?_) h h_ascii
  refine fits_of_mem_ranges ?_ h_range
  -- Line by line: the whole table is too much for one evaluation.
  repeat refine List.forall_mem_cons.mpr ⟨lineFits_of_eq rfl (by decide +kernel), ?_⟩
  exact nofun

theorem isPlainCode_of_joiners {n : Nat} (h : joiners.containsCode n = true) (h_ascii : n < 0x80) :
    isPlainCode n = true := by
  refine isPlainCode_of_contains (fun range h_range => ?_) h h_ascii
  exact fits_of_mem_ranges
    (List.forall_mem_singleton.mpr (lineFits_of_eq rfl (by decide +kernel))) h_range

theorem isPlainCode_of_contextual {n : Nat} (h : contextual.containsCode n = true)
    (h_ascii : n < 0x80) : isPlainCode n = true := by
  refine isPlainCode_of_contains (fun range h_range => ?_) h h_ascii
  exact fits_of_mem_ranges
    (List.forall_mem_singleton.mpr (lineFits_of_eq rfl (by decide +kernel))) h_range

/-! ## Checked labels -/

/-- Whether a label holds no code points of ASCII but plain ones. -/
def PlainLabel (label : List Nat) : Prop := ∀ n ∈ label, n < 0x80 → isPlainCode n = true

/-- A code point that is let through is in one of three tables. -/
theorem isPlainCode_of_checkCode {before after : List Nat} {n : Nat}
    (h : checkCode before n after = .ok ()) (h_ascii : n < 0x80) : isPlainCode n = true := by
  by_cases h_permitted : permitted.containsCode n = true
  · exact isPlainCode_of_permitted h_permitted h_ascii
  · by_cases h_joiner : joiners.containsCode n = true
    · exact isPlainCode_of_joiners h_joiner h_ascii
    · by_cases h_context : contextual.containsCode n = true
      · exact isPlainCode_of_contextual h_context h_ascii
      · rw [checkCode, if_neg h_permitted, if_neg h_joiner, if_neg h_context] at h
        cases h

theorem plainLabel_of_checkCodes {before label : List Nat} (h : checkCodes before label = .ok ()) :
    PlainLabel label := by
  induction label generalizing before with
  | nil => exact fun _ h_mem => absurd h_mem List.not_mem_nil
  | cons n after ih =>
    rw [checkCodes] at h
    obtain ⟨⟨⟩, h_first, h_after⟩ := ok_of_bind h
    exact List.forall_mem_cons.mpr ⟨isPlainCode_of_checkCode h_first, ih h_after⟩

theorem plainLabel_of_checkLabel {label : List Nat} (h : checkLabel label = .ok ()) :
    PlainLabel label := by
  unfold checkLabel at h
  -- Five conditions on the label as a whole come before its code points.
  obtain ⟨-, -, h⟩ := ok_of_bind h
  obtain ⟨-, -, h⟩ := ok_of_bind h
  obtain ⟨-, -, h⟩ := ok_of_bind h
  obtain ⟨-, -, h⟩ := ok_of_bind h
  obtain ⟨-, -, h⟩ := ok_of_bind h
  obtain ⟨⟨⟩, h_codes, -⟩ := ok_of_bind h
  exact plainLabel_of_checkCodes h_codes

/-! ## Decoding -/

namespace Punycode

theorem isPlainChar_of_digit {c : Char} (h : (digitValue? c).isSome = true)
    (h_small : c.isUpper = false) : isPlainChar c = true := by
  rw [Bool.eq_false_iff, ne_eq, isUpper_iff] at h_small
  have h_chars : ('a' ≤ c ∧ c ≤ 'z') ∨ ('A' ≤ c ∧ c ≤ 'Z') ∨ ('0' ≤ c ∧ c ≤ '9') := by
    unfold digitValue? at h
    split at h
    · exact .inl ‹_›
    · split at h
      · exact .inr (.inl ‹_›)
      · split at h
        · exact .inr (.inr ‹_›)
        · cases h
  simp only [Char.le_def, UInt32.le_iff_toNat_le, Char.toNat_val] at h_chars
  simp only [isPlainChar, isPlainCode, Bool.or_eq_true, Bool.and_eq_true, decide_eq_true_eq,
    beq_iff_eq]
  have h_bounds : 'a'.toNat = 0x61 ∧ 'z'.toNat = 0x7A ∧ 'A'.toNat = 0x41 ∧ 'Z'.toNat = 0x5A ∧
      '0'.toNat = 0x30 ∧ '9'.toNat = 0x39 := by decide
  omega

/-- A number is read from digits. -/
theorem digits_of_decodeDelta {bias position weight acc n : Nat} {cs rest : List Char}
    (h : decodeDelta bias position weight acc cs = some (n, rest)) :
    ∃ digits, cs = digits ++ rest ∧ ∀ c ∈ digits, (digitValue? c).isSome = true := by
  induction cs generalizing position weight acc with
  | nil => cases h
  | cons c cs ih =>
    rw [decodeDelta] at h
    split at h
    · cases h
    next d h_digit =>
      have h_first : (digitValue? c).isSome = true := by
        rw [h_digit]
        rfl
      dsimp only at h
      split at h
      · cases h
        exact ⟨[c], rfl, List.forall_mem_singleton.mpr h_first⟩
      · obtain ⟨digits, h_cs, h_digits⟩ := ih h
        refine ⟨c :: digits, ?_, List.forall_mem_cons.mpr ⟨h_first, h_digits⟩⟩
        rw [h_cs, List.cons_append]

/-- Decoding inserts into a label, reading digits only. -/
theorem mem_of_decodeFrom {label result : List Nat} {code index bias : Nat} {first : Bool}
    {cs : List Char} (h : decodeFrom label code index bias first cs = some result) :
    (∀ n ∈ label, n ∈ result) ∧ ∀ c ∈ cs, (digitValue? c).isSome = true := by
  -- By the cases of the decoder, which goes on behind the digits that a number took.
  induction label, code, index, bias, first, cs using decodeFrom.induct with
  | case1 label code index bias first =>
    rw [decodeFrom] at h
    cases h
    exact ⟨fun _ h_mem => h_mem, fun _ h_mem => absurd h_mem List.not_mem_nil⟩
  | case2 label code index bias first c cs h_none =>
    rw [decodeFrom] at h
    split at h
    · cases h
    next h_some => cases h_none.symm.trans h_some
  | case3 label code index bias first c cs delta rest h_delta index' size code' h_code =>
    rw [decodeFrom] at h
    split at h
    · cases h
    next h_some => 
      cases h_delta.symm.trans h_some
      dsimp only at h
      rw [if_pos h_code] at h
      cases h
  | case4 label code index bias first c cs delta rest h_delta index' size code' h_code place label'
      ih =>
    rw [decodeFrom] at h
    split at h
    · cases h
    next h_some =>
      cases h_delta.symm.trans h_some
      dsimp only at h
      rw [if_neg h_code] at h
      obtain ⟨h_label, h_rest⟩ := ih h
      obtain ⟨digits, h_cs, h_digits⟩ := digits_of_decodeDelta h_delta
      refine ⟨fun n h_mem => h_label n ?_, fun d h_mem => ?_⟩
      · rw [← List.take_append_drop place label, List.mem_append] at h_mem
        exact List.mem_append.mpr (h_mem.imp_right (List.mem_cons_of_mem code'))
      · rw [h_cs, List.mem_append] at h_mem
        exact h_mem.elim (h_digits d) (h_rest d)

/-- The last hyphen parts a text, and nothing else of it is left out. -/
theorem mem_splitBase {cs : List Char} {c : Char} (h : c ∈ cs) :
    c ∈ (splitBase cs).1 ∨ c = '-' ∨ c ∈ (splitBase cs).2 := by
  unfold splitBase
  dsimp only
  split
  · exact .inr (.inr h)
  next h_base =>
    by_cases h_hyphen : '-' ∈ cs
    · obtain ⟨before, after, rfl, h_last⟩ := exists_last h_hyphen
      have h_count : (before ++ '-' :: after).length - after.length - 1 = before.length := by
        rw [List.length_append, List.length_cons]
        omega
      rw [reverse_takeWhile_at before h_last, h_count, List.take_left]
      exact (List.mem_append.mp h).imp_right fun h_mem => List.mem_cons.mp h_mem
    · rw [List.takeWhile_eq_self_iff.mpr
        (ne_of_not_mem fun h_mem => h_hyphen (List.mem_reverse.mp h_mem))]
      exact .inr (.inr (by rwa [List.reverse_reverse]))

/-- A text without capitals that stands for a plain label is plain. -/
theorem isPlainChar_of_decode {cs : List Char} {label : List Nat} (h : decode cs = some label)
    (h_plain : PlainLabel label) (h_small : ∀ c ∈ cs, c.isUpper = false)
    (h_ascii : ∀ c ∈ cs, c.toNat < 0x80) : ∀ c ∈ cs, isPlainChar c = true := by
  obtain ⟨h_base, h_digits⟩ := mem_of_decodeFrom h
  intro c h_mem
  rcases mem_splitBase h_mem with h_first | rfl | h_rest
  · exact h_plain c.toNat (h_base _ (List.mem_map_of_mem h_first)) (h_ascii c h_mem)
  · rfl
  · exact isPlainChar_of_digit (h_digits c h_rest) (h_small c h_mem)

/-! ## Encoding -/

theorem isPlainChar_digit {n : Nat} (h : n < 36) : isPlainChar (digit n) = true := by
  have h_all : ∀ n : Fin 36, isPlainChar (digit n.val) = true := by decide
  exact h_all ⟨n, h⟩

theorem isPlainChar_of_mem_encodeDelta {bias n position : Nat} {c : Char}
    (h : c ∈ encodeDelta bias n position) : isPlainChar c = true := by
  induction n, position using encodeDelta.induct bias with
  | case1 n position t h_last =>
    have h_t : t ≤ 26 := threshold_le position bias
    rw [encodeDelta, if_pos h_last, List.mem_singleton] at h
    rw [h]
    exact isPlainChar_digit (by omega)
  | case2 n position t h_more ih =>
    have h_pos : 1 ≤ t := threshold_pos position bias
    have h_t : t ≤ 26 := threshold_le position bias
    rw [encodeDelta, if_neg h_more] at h
    rcases List.mem_cons.mp h with rfl | h_rest
    · have h_digit : (n - t) % (36 - t) < 36 - t := Nat.mod_lt _ (by omega)
      have h_value : t + (n - t) % (36 - t) < 36 := by omega
      exact isPlainChar_digit h_value
    · exact ih h_rest

theorem isPlainChar_of_mem_encodePass {e : Encoder} (h : ∀ c ∈ e.out, isPlainChar c = true)
    {label : List Nat} {code : Nat} {c : Char} (h_mem : c ∈ (encodePass label code e).out) :
    isPlainChar c = true := by
  unfold encodePass at h_mem
  induction label generalizing e with
  | nil => exact h c h_mem
  | cons n label ih =>
    rw [List.foldl_cons] at h_mem
    refine ih ?_ h_mem
    intro d h_out
    split at h_out
    · exact h d h_out
    · split at h_out
      · exact (List.mem_append.mp h_out).elim (h d) isPlainChar_of_mem_encodeDelta
      · exact h d h_out

theorem isPlainChar_of_mem_encodeCodes {e : Encoder} (h : ∀ c ∈ e.out, isPlainChar c = true)
    {label codes : List Nat} {next : Nat} {c : Char}
    (h_mem : c ∈ (encodeCodes label next codes e).out) : isPlainChar c = true := by
  induction codes generalizing next e with
  | nil => exact h c h_mem
  | cons code codes ih =>
    rw [encodeCodes] at h_mem
    refine ih (fun d h_pass => ?_) h_mem
    dsimp only at h_pass
    exact isPlainChar_of_mem_encodePass (by exact h) h_pass

theorem isPlainChar_of_mem_encode {label : List Nat} (h : PlainLabel label) {c : Char}
    (h_mem : c ∈ encode label) : isPlainChar c = true := by
  have h_base : ∀ c ∈ (label.filter (· < 0x80)).map Char.ofNat, isPlainChar c = true := by
    intro c h_base
    obtain ⟨n, h_n, rfl⟩ := List.mem_map.mp h_base
    obtain ⟨h_label, h_small⟩ := List.mem_filter.mp h_n
    have h_ascii : n < 0x80 := of_decide_eq_true h_small
    rw [isPlainChar, toNat_ofNat h_ascii]
    exact h n h_label h_ascii
  unfold encode at h_mem
  dsimp only at h_mem
  rcases List.mem_append.mp h_mem with h_first | h_rest
  · split at h_first
    · cases h_first
    · rcases List.mem_append.mp h_first with h_first | h_hyphen
      · exact h_base c h_first
      · rw [List.mem_singleton.mp h_hyphen]
        rfl
  · exact isPlainChar_of_mem_encodeCodes (fun _ h_out => absurd h_out List.not_mem_nil) h_rest

end Punycode

/-! ## ASCII forms -/

theorem isPlainChar_of_mem_encodedMark : ∀ c ∈ encodedMark, isPlainChar c = true :=
  List.all_eq_true.mp (by decide)

theorem isPlainChar_of_unicodeLabel {label : List Char} {codes : List Nat}
    (h : unicodeLabel label = .ok codes) (h_small : ∀ c ∈ label, c.isUpper = false)
    (h_ascii : ∀ c ∈ label, c.toNat < 0x80) : ∀ c ∈ label, isPlainChar c = true := by
  unfold unicodeLabel at h
  rw [map_toLower h_small] at h
  dsimp only at h
  split at h
  next h_mark =>
    obtain ⟨digits, rfl⟩ := List.isPrefixOf_iff_prefix.mp h_mark
    obtain ⟨-, -, h⟩ := ok_of_bind h
    -- What is checked is the decoded label, which has the ASCII characters of `digits`.
    have h_drop : (encodedMark ++ digits).drop 4 = digits := rfl
    rw [h_drop] at h
    split at h
    · cases h
    next decoded h_decode =>
      obtain ⟨⟨⟩, h_check, -⟩ := ok_of_bind h
      have h_digits := Punycode.isPlainChar_of_decode h_decode (plainLabel_of_checkLabel h_check)
        (fun c h_mem => h_small c (List.mem_append_right _ h_mem))
        (fun c h_mem => h_ascii c (List.mem_append_right _ h_mem))
      exact List.forall_mem_append.mpr ⟨isPlainChar_of_mem_encodedMark, h_digits⟩
  next =>
    obtain ⟨⟨⟩, h_check, -⟩ := ok_of_bind h
    intro c h_mem
    exact plainLabel_of_checkLabel h_check c.toNat (List.mem_map_of_mem h_mem) (h_ascii c h_mem)

/-- The ASCII form of a label without capitals is plain. -/
theorem isPlainChar_of_asciiLabel {label out : List Char} (h : asciiLabel label = .ok out)
    (h_small : ∀ c ∈ label, c.isUpper = false) : ∀ c ∈ out, isPlainChar c = true := by
  unfold asciiLabel at h
  split at h
  next h_ascii =>
    obtain ⟨codes, h_codes, h⟩ := ok_of_bind h
    obtain ⟨-, -, h⟩ := ok_of_bind h
    cases h
    exact isPlainChar_of_unicodeLabel h_codes h_small fun c h_mem =>
      of_decide_eq_true (List.all_eq_true.mp h_ascii c h_mem)
  next =>
    obtain ⟨⟨⟩, h_check, h⟩ := ok_of_bind h
    obtain ⟨-, -, h⟩ := ok_of_bind h
    cases h
    intro c h_mem
    rcases List.mem_append.mp h_mem with h_mark | h_encoded
    · exact isPlainChar_of_mem_encodedMark c h_mark
    · exact Punycode.isPlainChar_of_mem_encode (plainLabel_of_checkLabel h_check) h_encoded

/-! ## Names -/

theorem mem_of_labels? {name label : List Char} {labels : List (List Char)} {dotted : Bool}
    (h : labels? name = some (labels, dotted)) (h_label : label ∈ labels) {c : Char}
    (h_mem : c ∈ label) : c ∈ name := by
  have h_part : label ∈ name.splitOnP isDot := by
    unfold labels? at h
    dsimp only at h
    split at h
    · cases h
    · split at h
      · cases h
        exact List.dropLast_subset _ h_label
      · cases h
        exact h_label
  exact (of_mem_splitOnP h_part h_mem).1

theorem of_mem_mapM {α β : Type} {f : α → Except LabelFault β} {xs : List α} {ys : List β}
    (h : xs.mapM f = .ok ys) {y : β} (h_mem : y ∈ ys) : ∃ x ∈ xs, f x = .ok y := by
  induction xs generalizing ys with
  | nil =>
    cases h
    cases h_mem
  | cons first rest ih =>
    rw [List.mapM_cons] at h
    obtain ⟨y_first, h_first, h⟩ := ok_of_bind h
    obtain ⟨ys_rest, h_rest, h⟩ := ok_of_bind h
    cases h
    rcases List.mem_cons.mp h_mem with rfl | h_mem
    · exact ⟨first, List.mem_cons_self, h_first⟩
    · obtain ⟨x, h_x, h_y⟩ := ih h_rest h_mem
      exact ⟨x, List.mem_cons_of_mem first h_x, h_y⟩

theorem of_mem_joinLabels {labels : List (List Char)} {dotted : Bool} {c : Char}
    (h : c ∈ joinLabels labels dotted) : c = '.' ∨ ∃ label ∈ labels, c ∈ label := by
  by_cases h_dot : c = '.'
  · exact .inl h_dot
  · obtain ⟨part, h_part, h_mem⟩ := (mem_intercalate_iff h_dot).mp h
    refine .inr ⟨part, ?_, h_mem⟩
    cases dotted with
    | false => exact h_part
    | true =>
      rcases List.mem_append.mp h_part with h_label | h_end
      · exact h_label
      · rw [List.mem_singleton.mp h_end] at h_mem
        cases h_mem

/-- The ASCII form of a name without capitals is plain but for its dots. -/
theorem of_mem_encodeName {name out : List Char} (h : encodeName name = .ok out)
    (h_small : ∀ c ∈ name, c.isUpper = false) {c : Char} (h_mem : c ∈ out) :
    c = '.' ∨ isPlainChar c = true := by
  unfold encodeName at h
  obtain ⟨-, -, h⟩ := ok_of_bind h
  split at h
  · cases h
  next labels dotted h_labels =>
    obtain ⟨encoded, h_encoded, h⟩ := ok_of_bind h
    obtain ⟨-, -, h⟩ := ok_of_bind h
    cases h
    refine (of_mem_joinLabels h_mem).imp_right ?_
    rintro ⟨part, h_part, h_mem⟩
    obtain ⟨label, h_label, h_ascii⟩ := of_mem_mapM h_encoded h_part
    exact isPlainChar_of_asciiLabel h_ascii
      (fun c h_mem => h_small c (mem_of_labels? h_labels h_label h_mem)) c h_mem

end ImageIntake.Host
