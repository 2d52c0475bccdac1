/-
  ImageIntake.Proofs.Files.Gzip

  What is packed is unpacked again.  A plain block begins inside a byte, with three bits,
  and goes on at the next one: the bits behind its sort are dropped up to the byte
  (`readPlain_plainBlock`), and from there on bits are taken a byte at a time.  So blocks
  are read one after another (`readBlocks_plainBlocks`), and what stands behind the last
  one is left, where the checksum and the length are found (`unpack?_pack`).
-/

import Mathlib.Algebra.Ring.Nat
import Mathlib.Data.List.Basic
import ImageIntake.Files.Gzip

namespace ImageIntake.Files

open ImageIntake.Number

/-! ## Bits of bytes -/

namespace Inflate

@[simp] theorem length_bitsOfByte (b : UInt8) : (bitsOfByte b).length = 8 := rfl

theorem numberOfBits_bitsOfByte (b : UInt8) : numberOfBits (bitsOfByte b) = b.toNat := by
  have h_all : ∀ n : Fin 256, numberOfBits (bitsOfByte (UInt8.ofNat n)) = n := by
    decide +kernel
  have h := h_all ⟨b.toNat, b.toNat_lt⟩
  rwa [UInt8.ofNat_toNat] at h

theorem numberOfBits_append (front back : List Bool) :
    numberOfBits (front ++ back) = numberOfBits front + 2 ^ front.length * numberOfBits back := by
  induction front with
  | nil => simp [numberOfBits]
  | cons b rest ih =>
    have h_two : 2 ^ (rest.length + 1) * numberOfBits back =
        2 * (2 ^ rest.length * numberOfBits back) := by
      rw [Nat.pow_succ, Nat.mul_comm (2 ^ rest.length) 2, Nat.mul_assoc]
    rw [List.cons_append, numberOfBits, numberOfBits, ih, List.length_cons, h_two]
    omega

/-- The bits of bytes. -/
def bits (bytes : Bytes) : List Bool := bytes.flatMap bitsOfByte

@[simp] theorem bits_cons (b : UInt8) (bytes : Bytes) :
    bits (b :: bytes) = bitsOfByte b ++ bits bytes := rfl

@[simp] theorem bits_append (front back : Bytes) : bits (front ++ back) = bits front ++ bits back :=
  List.flatMap_append

@[simp] theorem length_bits (bytes : Bytes) : (bits bytes).length = 8 * bytes.length := by
  induction bytes with
  | nil => rfl
  | cons b rest ih =>
    rw [bits_cons, List.length_append, length_bitsOfByte, ih, List.length_cons]
    omega

theorem numberOfBits_bits (bytes : Bytes) :
    numberOfBits (bits bytes) = Gzip.ofLittleEndian bytes := by
  induction bytes with
  | nil => rfl
  | cons b rest ih =>
    rw [bits_cons, numberOfBits_append, numberOfBits_bitsOfByte, length_bitsOfByte, ih]
    rfl

/-! ## Taking numbers and bytes -/

theorem takeNumber_append {count : Nat} {front : List Bool} (h : front.length = count)
    (back : List Bool) : takeNumber count (front ++ back) = some (numberOfBits front, back) := by
  subst h
  unfold takeNumber
  rw [List.take_left, List.drop_left]
  exact if_pos rfl

theorem takeNumber_bits {count : Nat} {bytes : Bytes} (h : 8 * bytes.length = count)
    (back : List Bool) :
    takeNumber count (bits bytes ++ back) = some (Gzip.ofLittleEndian bytes, back) := by
  rw [takeNumber_append ((length_bits bytes).trans h), numberOfBits_bits]

theorem takeBytes_bits (bytes : Bytes) (back : List Bool) :
    takeBytes bytes.length (bits bytes ++ back) = some (bytes, back) := by
  induction bytes with
  | nil => rfl
  | cons b rest ih =>
    rw [List.length_cons, takeBytes, bits_cons, List.append_assoc,
      takeNumber_append (length_bitsOfByte b), numberOfBits_bitsOfByte]
    show (takeBytes rest.length (bits rest ++ back)).bind _ = _
    rw [ih]
    show some (UInt8.ofNat b.toNat :: rest, back) = _
    rw [UInt8.ofNat_toNat]

end Inflate

/-! ## Numbers in bytes -/

namespace Gzip

@[simp] theorem length_littleEndian (count n : Nat) : (littleEndian count n).length = count := by
  induction count generalizing n with
  | zero => rfl
  | succ count ih => rw [littleEndian, List.length_cons, ih]

theorem ofLittleEndian_littleEndian {count n : Nat} (h : n < 256 ^ count) :
    ofLittleEndian (littleEndian count n) = n := by
  induction count generalizing n with
  | zero =>
    have h_zero : n = 0 := Nat.lt_one_iff.mp h
    rw [h_zero]
    rfl
  | succ count ih =>
    have h_high : n / 256 < 256 ^ count := by
      rw [Nat.div_lt_iff_lt_mul (by decide)]
      exact h
    have h_low : (UInt8.ofNat (n % 256)).toNat = n % 256 :=
      UInt8.toNat_ofNat_of_lt (Nat.mod_lt n (by decide))
    rw [littleEndian, ofLittleEndian, ih h_high, h_low]
    omega

/-! ## Blocks -/

open Inflate

/-- A plain block is read behind the bits that are left of the byte it begins in. -/
theorem readPlain_plainBlock {total : Nat} {head : List Bool} {bytes : Bytes} (rest : Bytes)
    (out : Bytes) (h_head : head.length < 8) (h_limit : bytes.length ≤ blockLimit)
    (h_total : bytes.length ≤ total) :
    readPlain total out (head ++ bits (littleEndian 2 bytes.length ++
      littleEndian 2 (blockLimit - bytes.length) ++ bytes ++ rest)) =
        some (bytes.reverse ++ out, bits rest) := by
  have h_small {n : Nat} (h : n ≤ blockLimit) : ofLittleEndian (littleEndian 2 n) = n :=
    ofLittleEndian_littleEndian (Nat.lt_of_le_of_lt h (by decide))
  have h_sum : bytes.length + (blockLimit - bytes.length) = 65535 ∧ bytes.length ≤ total :=
    ⟨Nat.add_sub_of_le h_limit, h_total⟩
  have h_align (back : Bytes) :
      (head ++ bits back).drop ((head ++ bits back).length % 8) = bits back := by
    have h_mod : (head ++ bits back).length % 8 = head.length := by
      rw [List.length_append, length_bits]
      omega
    rw [h_mod, List.drop_left]
  unfold readPlain
  rw [h_align]
  simp only [bits_append, List.append_assoc, Option.bind_eq_bind]
  rw [takeNumber_bits (by rw [length_littleEndian]), Option.bind_some,
    takeNumber_bits (by rw [length_littleEndian]), Option.bind_some,
    h_small h_limit, h_small (Nat.sub_le _ _), if_pos h_sum, takeBytes_bits]
  rfl

/-- A plain block is read as one of several, and then the rest if it is not the last. -/
theorem readBlocks_plainBlock {last : Bool} {bytes : Bytes} (fuel : Nat) (rest : Bytes)
    (out : Bytes) (h_limit : bytes.length ≤ blockLimit) :
    readBlocks (fuel + 1) out (bits (plainBlock last bytes ++ rest)) =
      if last then some (bytes.reverse ++ out, bits rest)
      else readBlocks fuel (bytes.reverse ++ out) (bits rest) := by
  have h_flag : bitsOfByte (if last then 1 else 0) =
      [last] ++ ([false, false] ++ List.replicate 5 false) := by
    cases last <;> decide
  have h_block : bits (plainBlock last bytes ++ rest) =
      [last] ++ ([false, false] ++ (List.replicate 5 false ++
        bits (littleEndian 2 bytes.length ++ littleEndian 2 (blockLimit - bytes.length) ++
          bytes ++ rest))) := by
    unfold plainBlock
    simp only [List.cons_append, bits_cons, h_flag, List.append_assoc, List.nil_append]
  have h_total : bytes.length ≤ (List.replicate 5 false ++ bits (littleEndian 2 bytes.length ++
      littleEndian 2 (blockLimit - bytes.length) ++ bytes ++ rest)).length := by
    simp only [List.length_append, length_bits]
    omega
  have h_plain := readPlain_plainBlock rest out
    (by decide : (List.replicate 5 false).length < 8) h_limit h_total
  rw [h_block, readBlocks]
  simp only [Option.bind_eq_bind]
  rw [takeNumber_append (by rfl : [last].length = 1), Option.bind_some,
    takeNumber_append (by rfl : [false, false].length = 2), Option.bind_some]
  dsimp only
  rw [if_pos (by decide), h_plain, Option.bind_some]
  cases last <;> rfl

/-- Bytes in plain blocks are read, up to the last block. -/
theorem readBlocks_plainBlocks {fuel : Nat} {bytes : Bytes} (rest out : Bytes)
    (h_fuel : bytes.length < fuel) :
    readBlocks fuel out (bits (plainBlocks bytes ++ rest)) =
      some (bytes.reverse ++ out, bits rest) := by
  induction bytes using plainBlocks.induct generalizing fuel out with
  | case1 bytes h_limit =>
    obtain ⟨less, rfl⟩ : ∃ less, fuel = less + 1 := Nat.exists_eq_add_one.mpr (by omega)
    rw [plainBlocks, if_pos h_limit, readBlocks_plainBlock less rest out h_limit, if_pos rfl]
  | case2 bytes h_limit ih =>
    obtain ⟨less, rfl⟩ : ∃ less, fuel = less + 1 := Nat.exists_eq_add_one.mpr (by omega)
    have h_taken : (bytes.take blockLimit).length ≤ blockLimit := List.length_take_le _ _
    have h_less : (bytes.drop blockLimit).length < less := by
      rw [List.length_drop]
      unfold blockLimit at h_limit ⊢
      omega
    rw [plainBlocks, if_neg h_limit, List.append_assoc, readBlocks_plainBlock less _ out h_taken,
      if_neg Bool.false_ne_true, ih _ h_less, ← List.append_assoc, ← List.reverse_append,
      List.take_append_drop]

theorem length_le_plainBlocks (bytes : Bytes) : bytes.length ≤ (plainBlocks bytes).length := by
  fun_induction plainBlocks bytes with
  | case1 bytes _ =>
    unfold plainBlock
    simp only [List.length_append]
    omega
  | case2 bytes _ ih =>
    unfold plainBlock
    simp only [List.length_append, List.length_drop, List.length_take] at ih ⊢
    omega

theorem inflate_plainBlocks (bytes rest : Bytes) :
    inflate (plainBlocks bytes ++ rest) = some (bytes, rest) := by
  have h_fuel : bytes.length < (bits (plainBlocks bytes ++ rest)).length + 1 := by
    have h_le := length_le_plainBlocks bytes
    rw [length_bits, List.length_append]
    omega
  have h_blocks := readBlocks_plainBlocks rest [] h_fuel
  have h_left : (plainBlocks bytes ++ rest).length - (bits rest).length / 8 =
      (plainBlocks bytes).length := by
    rw [length_bits, List.length_append]
    omega
  unfold inflate
  show (readBlocks ((bits (plainBlocks bytes ++ rest)).length + 1) []
    (bits (plainBlocks bytes ++ rest))).bind _ = _
  rw [h_blocks]
  show some ((bytes.reverse ++ []).reverse, List.drop (_ - _) _) = _
  rw [h_left, List.drop_left, List.append_nil, List.reverse_reverse]

/-! ## Archives -/

theorem unpackOne?_pack (bytes : Bytes) : unpackOne? (pack bytes) = some (bytes, []) := by
  have h_sum : ofLittleEndian (littleEndian 4 (checksum bytes).toNat) = (checksum bytes).toNat :=
    ofLittleEndian_littleEndian (UInt32.toNat_lt _)
  have h_length : ofLittleEndian (littleEndian 4 (bytes.length % twoTo 32)) =
      bytes.length % twoTo 32 :=
    ofLittleEndian_littleEndian (Nat.mod_lt _ (twoTo_pos 32))
  have h_trailer : (littleEndian 4 (checksum bytes).toNat ++
      littleEndian 4 (bytes.length % twoTo 32)).length = 8 := by
    rw [List.length_append, length_littleEndian, length_littleEndian]
  have h_behind : skipHeader? (pack bytes) = some (plainBlocks bytes ++
      (littleEndian 4 (checksum bytes).toNat ++ littleEndian 4 (bytes.length % twoTo 32))) := by
    unfold pack
    rw [List.append_assoc, List.append_assoc]
    rfl
  unfold unpackOne?
  simp only [h_behind, Option.bind_eq_bind, Option.bind_some, inflate_plainBlocks]
  rw [List.take_of_length_le (Nat.le_of_eq h_trailer),
    List.drop_of_length_le (Nat.le_of_eq h_trailer), List.take_left' (length_littleEndian 4 _),
    List.drop_left' (length_littleEndian 4 _)]
  exact if_pos ⟨h_trailer, h_sum, h_length⟩

/-- What was packed is unpacked again. -/
theorem unpack?_pack (bytes : Bytes) : unpack? (pack bytes) = some bytes := by
  have h_one := unpackOne?_pack bytes
  obtain ⟨more, h_packed⟩ : ∃ more, pack bytes = 0x1F :: more := ⟨_, rfl⟩
  rw [h_packed] at h_one ⊢
  show unpackAll? ((0x1F :: more).length + 1) (0x1F :: more) = some bytes
  rw [List.length_cons, unpackAll?, if_neg (by simp), h_one]
  simp only [Option.bind_eq_bind, Option.bind_some]
  rw [unpackAll?, if_pos List.all_nil]
  exact congrArg some (List.append_nil bytes)

end Gzip

end ImageIntake.Files
