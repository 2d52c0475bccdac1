/-
  ImageIntake.Proofs.Text.Utf8

  Laws of UTF-8.  The bytes of a character are read as that character, whatever
  follows them (`decodeChars_encoded`), so that reading undoes writing
  (`ofUtf8_utf8`).  One byte more in front never makes for more than one character
  more (`length_decodeChars_cons_le`): what a character drops of the bytes behind
  its first are continuation bytes, and each of those would stand for a
  replacement of its own.  A character of one byte comes from that byte
  (`mem_of_mem_ofUtf8`), for nothing else is read as it.
-/

import Mathlib.Tactic.IntervalCases
import Mathlib.Tactic.SplitIfs
import ImageIntake.Text.Utf8

namespace ImageIntake.Text

/-! ## Writing -/

theorem toList_loop_eq (bytes : ByteArray) (i : Nat) (sofar : List UInt8) :
    ByteArray.toList.loop bytes i sofar = sofar.reverse ++ bytes.data.toList.drop i := by
  fun_induction ByteArray.toList.loop bytes i sofar with
  | case1 i sofar h_lt ih =>
    have h_size : i < bytes.data.toList.length := h_lt
    have h_get : bytes.get! i = bytes.data.toList[i] := by
      rw [ByteArray.get!]
      exact getElem!_pos bytes.data i h_lt
    rw [ih, List.drop_eq_getElem_cons h_size, List.reverse_cons, List.append_assoc, h_get]
    rfl
  | case2 i sofar h_ge =>
    have h_all : bytes.data.toList.length ≤ i := Nat.le_of_not_lt h_ge
    rw [List.drop_eq_nil_of_le h_all, List.append_nil]

theorem utf8_ofList (cs : List Char) :
    utf8 (String.ofList cs) = cs.flatMap String.utf8EncodeChar := by
  unfold utf8
  rw [ByteArray.toList, toList_loop_eq, String.toUTF8, String.toByteArray_ofList, List.utf8Encode,
    List.toList_data_toByteArray]
  rfl

theorem utf8_eq (s : String) : utf8 s = s.toList.flatMap String.utf8EncodeChar := by
  rw [← utf8_ofList, String.ofList_toList]

theorem utf8_singleton (c : Char) : utf8 (String.singleton c) = String.utf8EncodeChar c := by
  rw [utf8_eq, String.toList_singleton, List.flatMap_cons, List.flatMap_nil, List.append_nil]

/-! ## Reading one character -/

/-- A continuation byte within its bounds is taken in. -/
theorem takeTails_cons {more acc tail : Nat} {low high : UInt8} (rest : Bytes) (h_tail : tail < 64)
    (h_low : low.toNat ≤ tail + 0x80) (h_high : tail + 0x80 ≤ high.toNat) :
    takeTails (more + 1) low high acc (UInt8.ofNat (tail + 0x80) :: rest) =
      takeTails more 0x80 0xBF (acc * 64 + tail) rest := by
  have h_byte : (UInt8.ofNat (tail + 0x80)).toNat = tail + 0x80 := by
    rw [UInt8.toNat_ofNat', Nat.mod_eq_of_lt (by omega)]
  have h_bounds : low ≤ UInt8.ofNat (tail + 0x80) ∧ UInt8.ofNat (tail + 0x80) ≤ high := by
    rw [UInt8.le_iff_toNat_le, UInt8.le_iff_toNat_le, h_byte]
    exact ⟨h_low, h_high⟩
  rw [takeTails, if_pos h_bounds, h_byte, Nat.add_sub_cancel]

/-- Behind the first of them, continuation bytes have no narrower bounds. -/
theorem takeTails_cons_plain {more acc tail : Nat} (rest : Bytes) (h_tail : tail < 64) :
    takeTails (more + 1) 0x80 0xBF acc (UInt8.ofNat (tail + 0x80) :: rest) =
      takeTails more 0x80 0xBF (acc * 64 + tail) rest := by
  apply takeTails_cons rest h_tail
  · exact Nat.le_add_left 0x80 tail
  · exact Nat.add_le_add_right (Nat.le_of_lt_succ h_tail) 0x80

theorem takeChar_one {code : Nat} (h : code < 0x80) (rest : Bytes) :
    takeChar (UInt8.ofNat code) rest = (Char.ofNat code, rest) := by
  interval_cases code <;> rfl

theorem takeChar_two {lead : Nat} (h_low : 2 ≤ lead) (h_high : lead < 32) (rest : Bytes) :
    takeChar (UInt8.ofNat (lead + 0xC0)) rest = takeTails 1 0x80 0xBF lead rest := by
  interval_cases lead <;> rfl

theorem takeChar_three {lead : Nat} (h : lead < 16) (rest : Bytes) :
    takeChar (UInt8.ofNat (lead + 0xE0)) rest =
      takeTails 2 (if lead = 0 then 0xA0 else 0x80) (if lead = 13 then 0x9F else 0xBF) lead
        rest := by
  interval_cases lead <;> rfl

theorem takeChar_four {lead : Nat} (h : lead < 5) (rest : Bytes) :
    takeChar (UInt8.ofNat (lead + 0xF0)) rest =
      takeTails 3 (if lead = 0 then 0x90 else 0x80) (if lead = 4 then 0x8F else 0xBF) lead
        rest := by
  interval_cases lead <;> rfl

/-- The bytes of a character are read as that character, whatever follows. -/
theorem takeChar_encoded (c : Char) :
    ∃ b tails, String.utf8EncodeChar c = b :: tails ∧
      ∀ rest, takeChar b (tails ++ rest) = (c, rest) := by
  have h_valid : c.val.toNat < 0xD800 ∨ (0xDFFF < c.val.toNat ∧ c.val.toNat < 0x110000) := c.valid
  have h_char : Char.ofNat c.val.toNat = c := Char.ofNat_toNat c
  unfold String.utf8EncodeChar
  generalize c.val.toNat = code at h_valid h_char
  dsimp only
  split_ifs with h_one h_two h_three
  · refine ⟨_, _, rfl, fun rest => ?_⟩
    rw [takeChar_one (by omega), h_char]
    rfl
  · refine ⟨_, _, rfl, fun rest => ?_⟩
    have h_code : code / 64 % 32 * 64 + code % 64 = code := by omega
    rw [takeChar_two (by omega) (by omega), List.cons_append, takeTails_cons_plain _ (by omega),
      h_code, takeTails, h_char]
    rfl
  · refine ⟨_, _, rfl, fun rest => ?_⟩
    have h_low : (if code / 4096 % 16 = 0 then (0xA0 : UInt8) else 0x80).toNat ≤
        code / 64 % 64 + 0x80 := by
      split
      · show 0xA0 ≤ _
        omega
      · exact Nat.le_add_left 0x80 _
    -- Surrogates are no characters, so that nothing lies beyond the upper bound.
    have h_high : code / 64 % 64 + 0x80 ≤
        (if code / 4096 % 16 = 13 then (0x9F : UInt8) else 0xBF).toNat := by
      split
      · show _ ≤ 0x9F
        omega
      · show _ ≤ 0xBF
        omega
    have h_code : (code / 4096 % 16 * 64 + code / 64 % 64) * 64 + code % 64 = code := by omega
    rw [takeChar_three (by omega), List.cons_append, takeTails_cons _ (by omega) h_low h_high,
      List.cons_append, takeTails_cons_plain _ (by omega), h_code, takeTails, h_char]
    rfl
  · refine ⟨_, _, rfl, fun rest => ?_⟩
    have h_low : (if code / 262144 % 8 = 0 then (0x90 : UInt8) else 0x80).toNat ≤
        code / 4096 % 64 + 0x80 := by
      split
      · show 0x90 ≤ _
        omega
      · exact Nat.le_add_left 0x80 _
    have h_high : code / 4096 % 64 + 0x80 ≤
        (if code / 262144 % 8 = 4 then (0x8F : UInt8) else 0xBF).toNat := by
      split
      · show _ ≤ 0x8F
        omega
      · show _ ≤ 0xBF
        omega
    have h_code : ((code / 262144 % 8 * 64 + code / 4096 % 64) * 64 + code / 64 % 64) * 64 +
        code % 64 = code := by omega
    rw [takeChar_four (by omega), List.cons_append, takeTails_cons _ (by omega) h_low h_high,
      List.cons_append, takeTails_cons_plain _ (by omega), List.cons_append,
      takeTails_cons_plain _ (by omega), h_code, takeTails, h_char]
    rfl

/-! ## Reading undoes writing -/

theorem decodeChars_cons (b : UInt8) (rest : Bytes) :
    decodeChars (b :: rest) = (takeChar b rest).1 :: decodeChars (takeChar b rest).2 := by
  rw [decodeChars]

theorem decodeChars_encoded (c : Char) (rest : Bytes) :
    decodeChars (String.utf8EncodeChar c ++ rest) = c :: decodeChars rest := by
  obtain ⟨b, tails, h_bytes, h_take⟩ := takeChar_encoded c
  rw [h_bytes, List.cons_append, decodeChars_cons, h_take]

theorem decodeChars_flatMap (cs : List Char) :
    decodeChars (cs.flatMap String.utf8EncodeChar) = cs := by
  induction cs with
  | nil => rw [List.flatMap_nil, decodeChars]
  | cons c rest ih => rw [List.flatMap_cons, decodeChars_encoded, ih]

/-- The bytes of a text are read as that text. -/
theorem ofUtf8_utf8 (s : String) : ofUtf8 (utf8 s) = s := by
  unfold ofUtf8
  rw [utf8_eq, decodeChars_flatMap, String.ofList_toList]

/-! ## The number of characters -/

/-- Whether a byte continues a character. -/
def Continues (b : UInt8) : Prop := 0x80 ≤ b ∧ b ≤ 0xBF

/-- A character ends behind continuation bytes. -/
theorem takeTails_split (more : Nat) (low high : UInt8) (acc : Nat) (bytes : Bytes)
    (h_low : 0x80 ≤ low) (h_high : high ≤ 0xBF) :
    ∃ tails, bytes = tails ++ (takeTails more low high acc bytes).2 ∧ ∀ b ∈ tails, Continues b := by
  fun_induction takeTails more low high acc bytes with
  | case1 low high acc rest => exact ⟨[], rfl, by simp⟩
  | case2 low high acc more => exact ⟨[], rfl, by simp⟩
  | case3 low high acc more b rest h_bounds ih =>
    obtain ⟨tails, h_split, h_tails⟩ := ih (UInt8.le_refl _) (UInt8.le_refl _)
    refine ⟨b :: tails, congrArg (b :: ·) h_split, fun other h_mem => ?_⟩
    rcases List.mem_cons.mp h_mem with rfl | h_mem
    · exact ⟨UInt8.le_trans h_low h_bounds.1, UInt8.le_trans h_bounds.2 h_high⟩
    · exact h_tails other h_mem
  | case4 low high acc more b rest h_bounds => exact ⟨[], rfl, by simp⟩

theorem takeChar_split (b : UInt8) (rest : Bytes) :
    ∃ tails, rest = tails ++ (takeChar b rest).2 ∧ ∀ t ∈ tails, Continues t := by
  unfold takeChar
  split_ifs
  all_goals first
    | exact ⟨[], rfl, by simp⟩
    | exact takeTails_split _ _ _ _ rest (by decide) (by decide)

/-- Where no character begins, each continuation byte stands for one of its own. -/
theorem takeChar_of_continues {b : UInt8} (h : Continues b) (rest : Bytes) :
    takeChar b rest = (replacement, rest) := by
  have h_first : ¬b < 0x80 := UInt8.not_lt.mpr h.1
  have h_second : b < 0xC2 := Nat.lt_of_le_of_lt (UInt8.le_iff_toNat_le.mp h.2) (by decide)
  unfold takeChar
  rw [if_neg h_first, if_pos h_second]

theorem length_decodeChars_tails {tails : Bytes} (h : ∀ b ∈ tails, Continues b) (rest : Bytes) :
    (decodeChars (tails ++ rest)).length = tails.length + (decodeChars rest).length := by
  induction tails with
  | nil => simp
  | cons b tails ih =>
    rw [List.cons_append, decodeChars_cons, takeChar_of_continues (h b List.mem_cons_self),
      List.length_cons, ih fun t h_mem => h t (List.mem_cons_of_mem b h_mem), List.length_cons]
    omega

/-- One byte more in front makes for at most one character more. -/
theorem length_decodeChars_cons_le (b : UInt8) (rest : Bytes) :
    (decodeChars (b :: rest)).length ≤ (decodeChars rest).length + 1 := by
  obtain ⟨tails, h_split, h_tails⟩ := takeChar_split b rest
  have h_length := length_decodeChars_tails h_tails (takeChar b rest).2
  rw [← h_split] at h_length
  rw [decodeChars_cons, List.length_cons]
  omega

/-! ## Characters of one byte -/

/-- Whether a character takes more than one byte; the null character counts as one, since a code
that is none would be read as it. -/
def IsWide (c : Char) : Prop := c = '\x00' ∨ 0x80 ≤ c.toNat

instance : DecidablePred IsWide := fun c =>
  inferInstanceAs (Decidable (c = '\x00' ∨ 0x80 ≤ c.toNat))

theorem isWide_replacement : IsWide replacement := .inr (by decide)

theorem isWide_ofNat {code : Nat} (h : 0x80 ≤ code) : IsWide (Char.ofNat code) := by
  by_cases h_valid : code.isValidChar
  · rw [Char.ofNat, dif_pos h_valid]
    exact .inr h
  · rw [Char.ofNat, dif_neg h_valid]
    exact .inl rfl

/-- What is read with continuation bytes is wide: the bounds of the first of them keep the code
from being too small. -/
theorem isWide_takeTails {more : Nat} {low high : UInt8} {acc : Nat} (bytes : Bytes)
    (h : 0x80 ≤ acc ∨ (0 < more ∧ 2 ≤ acc) ∨ (1 < more ∧ 2 ≤ acc * 64 + (low.toNat - 0x80))) :
    IsWide (takeTails more low high acc bytes).1 := by
  fun_induction takeTails more low high acc bytes with
  | case1 low high acc rest => exact isWide_ofNat (by omega)
  | case2 low high acc more => exact isWide_replacement
  | case3 low high acc more b rest h_bounds ih =>
    have h_low := UInt8.le_iff_toNat_le.mp h_bounds.1
    exact ih (by omega)
  | case4 low high acc more b rest h_bounds => exact isWide_replacement

/-- Behind the lead byte that leaves no bits to the code, the bounds of the next one are
narrower. -/
theorem two_le_code {b lead low : UInt8} (h_lead : lead ≤ b) (h_low : 0x82 ≤ low) :
    2 ≤ (b.toNat - lead.toNat) * 64 + ((if b = lead then low else 0x80).toNat - 0x80) := by
  rw [UInt8.le_iff_toNat_le] at h_lead h_low
  split
  next h_eq =>
    have h_bound : 0x82 ≤ low.toNat := h_low
    omega
  next h_ne =>
    have h_other : b.toNat ≠ lead.toNat := fun h_eq => h_ne (UInt8.toNat_inj.mp h_eq)
    omega

/-- A byte that stands for no character of its own makes for none of one byte. -/
theorem isWide_takeChar {b : UInt8} (h : ¬b < 0x80) (rest : Bytes) :
    IsWide (takeChar b rest).1 := by
  unfold takeChar
  rw [if_neg h]
  split
  · exact isWide_replacement
  next h_second =>
    have h_lead : 0xC2 ≤ b.toNat := UInt8.le_iff_toNat_le.mp (UInt8.not_lt.mp h_second)
    split
    · exact isWide_takeTails rest (by omega)
    next h_three =>
      have h_code := two_le_code (UInt8.not_lt.mp h_three) (show (0x82 : UInt8) ≤ 0xA0 by decide)
      split
      · exact isWide_takeTails rest (.inr (.inr ⟨by decide, h_code⟩))
      next h_four =>
        have h_code := two_le_code (UInt8.not_lt.mp h_four) (show (0x82 : UInt8) ≤ 0x90 by decide)
        split
        · exact isWide_takeTails rest (.inr (.inr ⟨by decide, h_code⟩))
        · exact isWide_replacement

/-- A character of one byte comes from that byte. -/
theorem mem_of_mem_ofUtf8 {bytes : Bytes} {c : Char} (h : c ∈ (ofUtf8 bytes).toList)
    (h_narrow : ¬IsWide c) : UInt8.ofNat c.toNat ∈ bytes := by
  rw [ofUtf8, String.toList_ofList] at h
  fun_induction decodeChars bytes with
  | case1 => cases h
  | case2 b rest step ih =>
    obtain ⟨tails, h_split, -⟩ := takeChar_split b rest
    rcases List.mem_cons.mp h with rfl | h
    · by_cases h_byte : b < 0x80
      · have h_code : b.toNat < 0x80 := UInt8.lt_iff_toNat_lt.mp h_byte
        have h_char : step.1 = Char.ofNat b.toNat := by
          show (takeChar b rest).1 = _
          rw [takeChar, if_pos h_byte]
        have h_back : UInt8.ofNat (Char.ofNat b.toNat).toNat = b := by
          have h_valid : b.toNat.isValidChar := .inl (by omega)
          rw [Char.ofNat, dif_pos h_valid]
          exact UInt8.ofNat_toNat
        rw [h_char, h_back]
        exact List.mem_cons_self
      · exact absurd (isWide_takeChar h_byte rest) h_narrow
    · rw [h_split]
      exact List.mem_cons_of_mem b (List.mem_append_right tails (ih h))

theorem ofUtf8_ne_empty {bytes : Bytes} (h : bytes ≠ []) : ofUtf8 bytes ≠ "" := by
  obtain ⟨b, rest, rfl⟩ := List.exists_cons_of_ne_nil h
  rw [ofUtf8, decodeChars_cons]
  intro h_empty
  have h_list := congrArg String.toList h_empty
  rw [String.toList_ofList] at h_list
  cases h_list

end ImageIntake.Text
