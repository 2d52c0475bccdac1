/-
  ImageIntake.Proofs.Host.Punycode

  Punycode stands for the label it was written for.  A number of variable length is read
  back (`decodeDelta_encodeDelta`), and what the encoder writes for a code point makes the
  decoder insert it where it stands (`Decoder.run_encodeDelta`).  So the decoder keeps
  abreast of the encoder, which goes along the whole label once for each code point beyond
  ASCII (`Abreast.step`, `Abreast.codes`): it has those put together that are smaller, and
  the equal ones up to where the encoder is.
-/

import ImageIntake.Proofs.Host.Encoding

namespace ImageIntake.Host.Punycode

open ImageIntake.Text

/-! ## Numbers -/

theorem digitValue?_digit {n : Nat} (h : n < 36) : digitValue? (digit n) = some n := by
  have h_all : ∀ n : Fin 36, digitValue? (digit n.val) = some n.val := by decide
  exact h_all ⟨n, h⟩

theorem decodeDelta_encodeDelta (bias n position weight acc : Nat) (rest : List Char) :
    decodeDelta bias position weight acc (encodeDelta bias n position ++ rest) =
      some (acc + n * weight, rest) := by
  induction n, position using encodeDelta.induct bias generalizing weight acc with
  | case1 n position t h_last =>
    have h_t : t ≤ 26 := threshold_le position bias
    have h_digit : digitValue? (digit n) = some n := digitValue?_digit (by omega)
    rw [encodeDelta, if_pos h_last, List.singleton_append, decodeDelta, h_digit]
    exact if_pos h_last
  | case2 n position t h_more ih =>
    have h_pos : 1 ≤ t := threshold_pos position bias
    have h_t : t ≤ 26 := threshold_le position bias
    have h_rest : (n - t) % (36 - t) < 36 - t := Nat.mod_lt _ (by omega)
    have h_digit : digitValue? (digit (t + (n - t) % (36 - t))) =
        some (t + (n - t) % (36 - t)) := digitValue?_digit (by omega)
    have h_on : ¬t + (n - t) % (36 - t) < t := Nat.not_lt.mpr (Nat.le_add_right ..)
    -- The digit and what the others count make up the number again.
    have h_whole : t + (n - t) % (36 - t) + (n - t) / (36 - t) * (36 - t) = n := by
      have h_parts := Nat.mod_add_div' (n - t) (36 - t)
      omega
    rw [encodeDelta, if_neg h_more, List.cons_append, decodeDelta, h_digit]
    dsimp only
    rw [if_neg h_on, ih, Nat.mul_comm weight, ← Nat.mul_assoc, Nat.add_assoc, ← Nat.add_mul, h_whole]

theorem encodeDelta_ne_nil (bias n position : Nat) : encodeDelta bias n position ≠ [] := by
  rw [encodeDelta]
  split
  · exact List.cons_ne_nil _ _
  · exact List.cons_ne_nil _ _

/-! ## The decoder -/

/-- Where the decoder stands: the label so far, the last code point and the place behind it, the
bias, and whether nothing was inserted yet. -/
structure Decoder where
  label : List Nat
  code : Nat
  index : Nat
  bias : Nat
  first : Bool

namespace Decoder

/-- What the decoder makes of the text that is left. -/
def run (d : Decoder) (cs : List Char) : Option (List Nat) :=
  decodeFrom d.label d.code d.index d.bias d.first cs

/-- The decoder behind a code point that it inserted. -/
def insert (d : Decoder) (delta code place : Nat) : Decoder where
  label := d.label.take place ++ code :: d.label.drop place
  code := code
  index := place + 1
  bias := adapt delta d.first (d.label.length + 1)
  first := false

theorem length_insert (d : Decoder) (delta code place : Nat) :
    (d.insert delta code place).label.length = d.label.length + 1 := by
  simp only [insert, List.length_append, List.length_take, List.length_cons, List.length_drop]
  omega

/-- A delta that counts rounds through all places up to a code point, and then the places in front
of one, has the decoder insert it there. -/
theorem run_encodeDelta {d : Decoder} {delta code place : Nat}
    (h_index : d.index + delta = (code - d.code) * (d.label.length + 1) + place)
    (h_place : place ≤ d.label.length) (h_code : d.code ≤ code) (h_limit : code ≤ 0x10FFFF)
    (rest : List Char) :
    d.run (encodeDelta d.bias delta 0 ++ rest) = (d.insert delta code place).run rest := by
  have h_read : decodeDelta d.bias 0 1 0 (encodeDelta d.bias delta 0 ++ rest) = some (delta, rest) := by
    rw [decodeDelta_encodeDelta, Nat.mul_one, Nat.zero_add]
  have h_rounds : (d.index + delta) / (d.label.length + 1) = code - d.code := by
    rw [h_index, Nat.mul_comm, Nat.mul_add_div (Nat.succ_pos _),
      Nat.div_eq_of_lt (Nat.lt_succ_of_le h_place), Nat.add_zero]
  have h_rest : (d.index + delta) % (d.label.length + 1) = place := by
    rw [h_index, Nat.mul_comm, Nat.mul_add_mod, Nat.mod_eq_of_lt (Nat.lt_succ_of_le h_place)]
  have h_sum : d.code + (code - d.code) = code := Nat.add_sub_cancel' h_code
  have h_length := length_insert d delta code place
  obtain ⟨c, cs, h_cs⟩ := List.exists_cons_of_ne_nil (l := encodeDelta d.bias delta 0 ++ rest)
    fun h_nil => encodeDelta_ne_nil _ _ _ (List.append_eq_nil_iff.mp h_nil).1
  rw [h_cs] at h_read ⊢
  unfold run
  rw [decodeFrom]
  split
  next h_none => cases h_read.symm.trans h_none
  next h_some =>
    cases h_read.symm.trans h_some
    dsimp only
    rw [h_rounds, h_rest, h_sum, if_neg (Nat.not_lt.mpr h_limit)]
    unfold insert at h_length ⊢
    dsimp only at h_length ⊢
    rw [h_length]

end Decoder

/-! ## The encoder beside it -/

/-- What the encoder does with one code point of the label; a pass folds this over the label. -/
def encodeStep (code : Nat) (e : Encoder) (c : Nat) : Encoder :=
  if c < code then { e with delta := e.delta + 1 }
  else if c = code then
    { e with
      out := e.out ++ encodeDelta e.bias e.delta 0
      bias := adapt e.delta (e.handled = e.base) (e.handled + 1)
      delta := 0
      handled := e.handled + 1 }
  else e

/-- What the encoder writes on its way takes the decoder along. -/
def TakesAlong (e e' : Encoder) (d d' : Decoder) : Prop :=
  ∃ chunk, e'.out = e.out ++ chunk ∧ ∀ rest, d.run (chunk ++ rest) = d'.run rest

theorem TakesAlong.of_out {e e' : Encoder} (h : e'.out = e.out) (d : Decoder) :
    TakesAlong e e' d d :=
  ⟨[], by rw [h, List.append_nil], fun _ => rfl⟩

theorem TakesAlong.trans {e e' e'' : Encoder} {d d' d'' : Decoder} (h : TakesAlong e e' d d')
    (h' : TakesAlong e' e'' d' d'') : TakesAlong e e'' d d'' := by
  obtain ⟨chunk, h_out, h_run⟩ := h
  obtain ⟨chunk', h_out', h_run'⟩ := h'
  refine ⟨chunk ++ chunk', ?_, fun rest => ?_⟩
  · rw [h_out', h_out, List.append_assoc]
  · rw [List.append_assoc, h_run, h_run']

/-- The decoder beside an encoder that is on its way along the label for a code point, `before`
behind it and `after` in front of it. -/
structure Abreast (code : Nat) (before after : List Nat) (e : Encoder) (d : Decoder) : Prop where
  label : d.label = before.filter (· ≤ code) ++ after.filter (· < code)
  handled : e.handled = d.label.length
  bias : e.bias = d.bias
  first : d.first = decide (e.handled = e.base)
  base : e.base ≤ e.handled
  least : d.code ≤ code
  /-- The places from where the decoder is, as many rounds through all of them as there are code
  points to go, and then those behind the encoder. -/
  index : d.index + e.delta =
    (code - d.code) * (e.handled + 1) + (before.filter (· ≤ code)).length

namespace Abreast

variable {code : Nat} {before after : List Nat} {e : Encoder} {d : Decoder}

/-- Of equal code points the next is inserted behind what is there already of those before it. -/
theorem insert (h : Abreast code before (code :: after) e d) (h_limit : code ≤ 0x10FFFF) :
    ∃ d', TakesAlong e (encodeStep code e code) d d' ∧
      Abreast code (before ++ [code]) after (encodeStep code e code) d' := by
  have h_step : encodeStep code e code =
      { e with
        out := e.out ++ encodeDelta e.bias e.delta 0
        bias := adapt e.delta (e.handled = e.base) (e.handled + 1)
        delta := 0
        handled := e.handled + 1 } := by
    rw [encodeStep, if_neg (Nat.lt_irrefl code), if_pos rfl]
  -- Of the code point itself only what was handled before is in the label so far.
  have h_label : d.label = before.filter (· ≤ code) ++ after.filter (· < code) := by
    rw [h.label, List.filter_cons_of_neg (by simp)]
  have h_place : (before.filter (· ≤ code)).length ≤ d.label.length := by
    rw [h_label, List.length_append]
    exact Nat.le_add_right ..
  have h_index := h.index
  rw [h.handled] at h_index
  have h_before : (before ++ [code]).filter (· ≤ code) = before.filter (· ≤ code) ++ [code] := by
    simp
  rw [h_step]
  refine ⟨d.insert e.delta code (before.filter (· ≤ code)).length, ⟨_, rfl, fun rest => ?_⟩, ?_⟩
  · rw [h.bias]
    exact Decoder.run_encodeDelta h_index h_place h.least h_limit rest
  · constructor
    · unfold Decoder.insert
      dsimp only
      rw [h_before, h_label, List.take_left, List.drop_left, List.append_assoc,
        List.singleton_append]
    · rw [Decoder.length_insert, ← h.handled]
    · unfold Decoder.insert
      dsimp only
      rw [h.first, h.handled]
    · have h_beyond : e.handled + 1 ≠ e.base := fun h_eq => by
        have h_base := h.base
        omega
      exact (decide_eq_false h_beyond).symm
    · exact Nat.le_succ_of_le h.base
    · exact Nat.le_refl code
    · unfold Decoder.insert
      dsimp only
      rw [h_before, List.length_append, List.length_singleton, Nat.sub_self, Nat.zero_mul,
        Nat.zero_add]

theorem step {c : Nat} (h : Abreast code before (c :: after) e d) (h_limit : code ≤ 0x10FFFF) :
    ∃ d', TakesAlong e (encodeStep code e c) d d' ∧
      Abreast code (before ++ [c]) after (encodeStep code e c) d' := by
  rcases Nat.lt_trichotomy c code with h_less | rfl | h_more
  · have h_step : encodeStep code e c = { e with delta := e.delta + 1 } := if_pos h_less
    have h_before : (before ++ [c]).filter (· ≤ code) = before.filter (· ≤ code) ++ [c] := by
      simp [Nat.le_of_lt h_less]
    rw [h_step]
    refine ⟨d, .of_out rfl d, { h with label := ?_, index := ?_ }⟩
    · have h_after : (c :: after).filter (· < code) = c :: after.filter (· < code) := by
        simp [h_less]
      rw [h.label, h_before, h_after, List.append_assoc, List.singleton_append]
    · have h_index := h.index
      rw [h_before, List.length_append, List.length_singleton]
      dsimp only
      omega
  · exact h.insert h_limit
  · have h_step : encodeStep code e c = e := by
      rw [encodeStep, if_neg (Nat.lt_asymm h_more), if_neg (Nat.ne_of_gt h_more)]
    have h_before : (before ++ [c]).filter (· ≤ code) = before.filter (· ≤ code) := by
      rw [List.filter_append, List.filter_cons_of_neg (by simpa using h_more), List.filter_nil,
        List.append_nil]
    rw [h_step]
    refine ⟨d, .of_out rfl d, { h with label := ?_, index := ?_ }⟩
    · rw [h.label, h_before, List.filter_cons_of_neg (by simpa using Nat.le_of_lt h_more)]
    · rw [h_before, h.index]

theorem pass (h : Abreast code before after e d) (h_limit : code ≤ 0x10FFFF) :
    ∃ d', TakesAlong e (after.foldl (encodeStep code) e) d d' ∧
      Abreast code (before ++ after) [] (after.foldl (encodeStep code) e) d' := by
  induction after generalizing before e d with
  | nil =>
    rw [List.append_nil]
    exact ⟨d, .of_out rfl d, h⟩
  | cons c after ih =>
    obtain ⟨d', h_first, h_step⟩ := h.step h_limit
    obtain ⟨d'', h_rest, h_end⟩ := ih h_step
    rw [List.append_assoc] at h_end
    exact ⟨d'', h_first.trans h_rest, h_end⟩

/-- The encoder goes back to the start of the label for the next code point. -/
theorem back (h : Abreast code after [] e d) :
    Abreast (code + 1) [] after { e with delta := e.delta + 1 } d := by
  have h_label : d.label = after.filter (· ≤ code) := by
    rw [h.label, List.filter_nil, List.append_nil]
  refine { h with label := ?_, least := Nat.le_succ_of_le h.least, index := ?_ }
  · rw [h_label, List.filter_nil, List.nil_append]
    exact List.filter_congr fun n _ => decide_eq_decide.mpr Nat.lt_succ_iff.symm
  · have h_index := h.index
    have h_least := h.least
    have h_handled := h.handled
    rw [h_label] at h_handled
    have h_next : (code + 1 - d.code) * (e.handled + 1) =
        (code - d.code) * (e.handled + 1) + (e.handled + 1) := by
      rw [Nat.succ_sub h_least, Nat.succ_mul]
    rw [List.filter_nil, List.length_nil, h_next]
    dsimp only
    omega

/-- From one code point to another with none of the label between them. -/
theorem raise {next : Nat} (h : Abreast next [] after e d) (h_code : next ≤ code)
    (h_between : ∀ n ∈ after, n < code → n < next) :
    Abreast code [] after { e with delta := e.delta + (code - next) * (e.handled + 1) } d := by
  refine { h with label := ?_, least := Nat.le_trans h.least h_code, index := ?_ }
  · rw [h.label, List.filter_nil, List.filter_nil]
    refine congrArg ([] ++ ·) (List.filter_congr fun n h_mem => ?_)
    exact decide_eq_decide.mpr ⟨fun h_less => Nat.lt_of_lt_of_le h_less h_code, h_between n h_mem⟩
  · have h_index := h.index
    have h_sum : code - d.code = next - d.code + (code - next) := by
      have h_least := h.least
      omega
    rw [List.filter_nil, List.length_nil] at h_index ⊢
    dsimp only
    rw [h_sum, Nat.add_mul]
    omega

/-- The code points that are not passed yet go one after the other, and then the label is there. -/
theorem codes {label codes : List Nat} {next : Nat} (h : Abreast next [] label e d)
    (h_rising : codes.Pairwise (· < ·)) (h_least : ∀ n ∈ codes, next ≤ n)
    (h_all : ∀ n ∈ label, next ≤ n → n ∈ codes) (h_limit : ∀ n ∈ codes, n ≤ 0x10FFFF) :
    ∃ d', TakesAlong e (encodeCodes label next codes e) d d' ∧ d'.label = label := by
  induction codes generalizing next e d with
  | nil =>
    refine ⟨d, .of_out rfl d, ?_⟩
    rw [h.label, List.filter_nil, List.nil_append, List.filter_eq_self]
    exact fun n h_mem => decide_eq_true (Nat.not_le.mp fun h_le => nomatch h_all n h_mem h_le)
  | cons code codes ih =>
    obtain ⟨h_first, h_rising⟩ := List.pairwise_cons.mp h_rising
    have h_between : ∀ n ∈ label, n < code → n < next := by
      intro n h_mem h_less
      refine Nat.not_le.mp fun h_le => ?_
      rcases List.mem_cons.mp (h_all n h_mem h_le) with rfl | h_rest
      · exact Nat.lt_irrefl n h_less
      · exact Nat.lt_asymm h_less (h_first n h_rest)
    have h_raised := h.raise (h_least code List.mem_cons_self) h_between
    obtain ⟨d', h_along, h_passed⟩ := h_raised.pass (h_limit code List.mem_cons_self)
    obtain ⟨d'', h_rest, h_label⟩ := ih h_passed.back h_rising h_first
      (fun n h_mem h_le => List.mem_of_ne_of_mem (Nat.ne_of_gt h_le)
        (h_all n h_mem (Nat.le_trans (h_least code List.mem_cons_self) (Nat.le_of_lt h_le))))
      (fun n h_mem => h_limit n (List.mem_cons_of_mem code h_mem))
    refine ⟨d'', ?_, h_label⟩
    obtain ⟨chunk, h_out, h_run⟩ := h_along.trans (.trans (.of_out rfl d') h_rest)
    exact ⟨chunk, h_out, h_run⟩

end Abreast

/-! ## Whole labels -/

theorem pairwise_eraseDups {codes : List Nat} (h : codes.Pairwise (· ≤ ·)) :
    codes.eraseDups.Pairwise (· < ·) := by
  -- By the length: the rest is filtered before it goes on.
  induction h_length : codes.length using Nat.strongRecOn generalizing codes with
  | _ length ih =>
    cases codes with
    | nil => exact .nil
    | cons code codes =>
      obtain ⟨h_first, h_rest⟩ := List.pairwise_cons.mp h
      have h_short : (codes.filter fun n => !n == code).length < length := by
        rw [← h_length]
        exact Nat.lt_succ_of_le (List.length_filter_le ..)
      rw [List.eraseDups_cons]
      refine List.pairwise_cons.mpr ⟨fun n h_mem => ?_, ih _ h_short (h_rest.filter _) rfl⟩
      obtain ⟨h_n, h_ne⟩ := List.mem_filter.mp (List.mem_eraseDups.mp h_mem)
      exact Nat.lt_of_le_of_ne (h_first n h_n) fun h_eq => by simp [h_eq] at h_ne

theorem mem_extended {label : List Nat} {n : Nat} :
    n ∈ extended label ↔ n ∈ label ∧ 0x80 ≤ n := by
  rw [extended, List.mem_eraseDups, List.mem_mergeSort, List.mem_filter, decide_eq_true_eq]

theorem pairwise_extended (label : List Nat) : (extended label).Pairwise (· < ·) := by
  refine pairwise_eraseDups ((List.pairwise_mergeSort ?_ ?_ _).imp fun h => of_decide_eq_true h)
  · intro a b c h_ab h_bc
    exact decide_eq_true (Nat.le_trans (of_decide_eq_true h_ab) (of_decide_eq_true h_bc))
  · intro a b
    simpa using Nat.le_total a b

/-- The characters in front of the last hyphen are parted from digits again. -/
theorem splitBase_append (base : List Char) {digits : List Char} (h : '-' ∉ digits) :
    splitBase ((if base.isEmpty then [] else base ++ ['-']) ++ digits) = (base, digits) := by
  unfold splitBase
  dsimp only
  cases base with
  | nil =>
    have h_reach : ∀ c ∈ digits.reverse, decide (c ≠ '-') = true :=
      ne_of_not_mem fun h_mem => h (List.mem_reverse.mp h_mem)
    rw [List.isEmpty_nil, if_pos rfl, List.nil_append, List.takeWhile_eq_self_iff.mpr h_reach,
      List.reverse_reverse, Nat.sub_self]
    rfl
  | cons c base =>
    have h_text : (if (c :: base).isEmpty = true then [] else c :: base ++ ['-']) ++ digits =
        c :: base ++ '-' :: digits := by simp
    have h_count : (c :: base ++ '-' :: digits).length - digits.length - 1 = (c :: base).length := by
      simp only [List.length_append, List.length_cons]
      omega
    rw [h_text, reverse_takeWhile_at (c :: base) h, h_count, List.take_left]
    rfl

/-- What is written behind the characters of ASCII: digits, from which the label is decoded. -/
theorem exists_digits {label : List Nat} (h_limit : ∀ n ∈ label, n ≤ 0x10FFFF) :
    ∃ base digits, encode label = (if base.isEmpty then [] else base ++ ['-']) ++ digits ∧
      '-' ∉ digits ∧ base.map Char.toNat = label.filter (· < 0x80) ∧
      decodeFrom (base.map Char.toNat) 0x80 0 72 true digits = some label := by
  obtain ⟨base, h_base⟩ : ∃ base, base = (label.filter (· < 0x80)).map Char.ofNat := ⟨_, rfl⟩
  have h_codes : base.map Char.toNat = label.filter (· < 0x80) := by
    rw [h_base, List.map_map]
    refine (List.map_congr_left fun n h_mem => ?_).trans (List.map_id _)
    exact toNat_ofNat (of_decide_eq_true (List.mem_filter.mp h_mem).2)
  let e : Encoder := { handled := base.length, base := base.length }
  let d : Decoder := ⟨base.map Char.toNat, 0x80, 0, 72, true⟩
  have h_start : Abreast 0x80 [] label e d :=
    { label := h_codes
      handled := (List.length_map ..).symm
      bias := rfl
      first := (decide_eq_true rfl).symm
      base := Nat.le_refl _
      least := Nat.le_refl _
      index := by simp [e, d] }
  obtain ⟨d', ⟨digits, h_out, h_run⟩, h_label⟩ := h_start.codes (pairwise_extended label)
    (fun n h_mem => (mem_extended.mp h_mem).2) (fun n h_mem h_le => mem_extended.mpr ⟨h_mem, h_le⟩)
    (fun n h_mem => h_limit n (mem_extended.mp h_mem).1)
  have h_decoded : d.run digits = some label := by
    rw [← List.append_nil digits, h_run, Decoder.run, decodeFrom, h_label]
  have h_hyphen : '-' ∉ digits := fun h_mem =>
    absurd ((mem_of_decodeFrom h_decoded).2 '-' h_mem) (by decide)
  have h_encode : encode label = (if base.isEmpty then [] else base ++ ['-']) ++ digits := by
    have h_written : e.out ++ digits = digits := rfl
    rw [h_written] at h_out
    rw [← h_out]
    unfold encode
    dsimp only
    rw [← h_base]
  exact ⟨base, digits, h_encode, h_hyphen, h_codes, h_decoded⟩

/-- Punycode stands for the label it was written for. -/
theorem decode_encode {label : List Nat} (h_limit : ∀ n ∈ label, n ≤ 0x10FFFF) :
    decode (encode label) = some label := by
  obtain ⟨base, digits, h_encode, h_hyphen, -, h_decoded⟩ := exists_digits h_limit
  rw [decode, h_encode, splitBase_append base h_hyphen]
  exact h_decoded

/-- With a code point beyond ASCII the text ends in a digit. -/
theorem getLast?_encode {label : List Nat} (h_limit : ∀ n ∈ label, n ≤ 0x10FFFF) {n : Nat}
    (h_mem : n ∈ label) (h_beyond : 0x80 ≤ n) :
    encode label ≠ [] ∧ (encode label).getLast? ≠ some '-' := by
  obtain ⟨base, digits, h_encode, h_hyphen, h_base, h_decoded⟩ := exists_digits h_limit
  have h_some : digits ≠ [] := by
    rintro rfl
    rw [decodeFrom, h_base] at h_decoded
    rw [← Option.some.inj h_decoded, List.mem_filter] at h_mem
    exact absurd (of_decide_eq_true h_mem.2) (Nat.not_lt.mpr h_beyond)
  rw [h_encode]
  refine ⟨fun h_nil => h_some (List.append_eq_nil_iff.mp h_nil).2, fun h_last => h_hyphen ?_⟩
  rw [List.getLast?_append_of_ne_nil _ h_some] at h_last
  exact List.mem_of_getLast? h_last

end ImageIntake.Host.Punycode
