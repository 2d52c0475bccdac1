/-
  ImageIntake.Files.Inflate

  Reading compressed data: blocks that are stored plainly, or as codes of
  literals and of copies of what came before, with code lengths that are fixed
  or given in front of the block.
-/

import ImageIntake.Number.Power
import ImageIntake.Text.Utf8

namespace ImageIntake.Files.Inflate

open ImageIntake.Number

/-! ## Bits -/

/-- The bits of a byte, the lowest first. -/
def bitsOfByte (b : UInt8) : List Bool :=
  (List.range 8).map fun i => b.toNat / twoTo i % 2 = 1

/-- The number bits spell, the lowest first. -/
def numberOfBits : List Bool → Nat
  | [] => 0
  | b :: rest => (if b then 1 else 0) + 2 * numberOfBits rest

/-- Takes a number of so many bits. -/
def takeNumber (count : Nat) (bits : List Bool) : Option (Nat × List Bool) :=
  let taken := bits.take count
  if taken.length = count then some (numberOfBits taken, bits.drop count) else none

/-- Takes so many bytes. -/
def takeBytes : (count : Nat) → List Bool → Option (Bytes × List Bool)
  | 0, bits => some ([], bits)
  | count + 1, bits => do
    let (n, bits) ← takeNumber 8 bits
    let (more, bits) ← takeBytes count bits
    return (UInt8.ofNat n :: more, bits)

/-! ## Codes -/

/-- A code: how many words each length has, from length one on, and the symbols in the order of
their words. -/
structure Code where
  counts : List Nat
  symbols : List Nat

/-- The longest word of a code. -/
def wordLimit : Nat := 15

/-- The code in which the symbol at each place has a word of the length given there; a length of
zero means no word. -/
def Code.ofLengths (lengths : List Nat) : Code where
  counts := (List.range wordLimit).map fun i => (lengths.filter (· = i + 1)).length
  symbols := (List.range wordLimit).flatMap fun i =>
    lengths.zipIdx.filterMap fun (length, symbol) => if length = i + 1 then some symbol else none

/-- Reads a word: `word` is what was read of it, `first` the first word of its length and `index`
the number of shorter words. -/
def readWord (symbols : List Nat) : (counts : List Nat) → (word first index : Nat) → List Bool →
    Option (Nat × List Bool)
  | [], _, _, _, _ => none
  | _, _, _, _, [] => none
  | count :: counts, word, first, index, bit :: bits =>
    let word := 2 * word + if bit then 1 else 0
    let first := 2 * first
    if first ≤ word ∧ word < first + count then
      (symbols[index + (word - first)]?).map fun symbol => (symbol, bits)
    else readWord symbols counts word (first + count) (index + count) bits

/-- Reads a symbol. -/
def Code.read (code : Code) (bits : List Bool) : Option (Nat × List Bool) :=
  readWord code.symbols code.counts 0 0 0 bits

/-- The lengths of literals where none are given. -/
def fixedLengths : List Nat :=
  List.replicate 144 8 ++ List.replicate 112 9 ++ List.replicate 24 7 ++ List.replicate 8 8

/-- The lengths of distances where none are given. -/
def fixedDistances : List Nat := List.replicate 30 5

/-! ## Code lengths in front of a block -/

/-- The order in which the lengths of the code of lengths stand. -/
def lengthOrder : List Nat := [16, 17, 18, 0, 8, 7, 9, 6, 10, 5, 11, 4, 12, 3, 13, 2, 14, 1, 15]

/-- Takes so many numbers of three bits. -/
def takeTriples : (count : Nat) → List Bool → Option (List Nat × List Bool)
  | 0, bits => some ([], bits)
  | count + 1, bits => do
    let (n, bits) ← takeNumber 3 bits
    let (more, bits) ← takeTriples count bits
    return (n :: more, bits)

/-- Reads lengths in the code of lengths until there are enough. -/
def readLengths (code : Code) (wanted : Nat) : (fuel : Nat) → List Nat → List Bool →
    Option (List Nat × List Bool)
  | 0, _, _ => none
  | fuel + 1, lengths, bits =>
    if wanted ≤ lengths.length then some (lengths, bits)
    else do
      let (symbol, bits) ← code.read bits
      if symbol < 16 then readLengths code wanted fuel (lengths ++ [symbol]) bits
      -- This symbol repeats the last length; the two above it repeat zero, in short and long runs.
      else if symbol = 16 then
        let last ← lengths.getLast?
        let (n, bits) ← takeNumber 2 bits
        readLengths code wanted fuel (lengths ++ List.replicate (3 + n) last) bits
      else
        let (n, bits) ← takeNumber (if symbol = 17 then 3 else 7) bits
        let count := (if symbol = 17 then 3 else 11) + n
        readLengths code wanted fuel (lengths ++ List.replicate count 0) bits

/-- Reads the two codes in front of a block. -/
def readCodes (bits : List Bool) : Option (Code × Code × List Bool) := do
  let (literals, bits) ← takeNumber 5 bits
  let (distances, bits) ← takeNumber 5 bits
  let (lengths, bits) ← takeNumber 4 bits
  let (triples, bits) ← takeTriples (lengths + 4) bits
  let given := lengthOrder.zip triples
  let code := Code.ofLengths ((List.range 19).map fun i => (given.lookup i).getD 0)
  let wanted := 257 + literals + (1 + distances)
  let (all, bits) ← readLengths code wanted (wanted + 1) [] bits
  if all.length = wanted then
    some (.ofLengths (all.take (257 + literals)), .ofLengths (all.drop (257 + literals)), bits)
  else none

/-! ## Copies -/

/-- The least length of each length symbol, and the bits that add to it. -/
def lengthBases : List (Nat × Nat) := [
  (3, 0), (4, 0), (5, 0), (6, 0), (7, 0), (8, 0), (9, 0), (10, 0), (11, 1), (13, 1), (15, 1),
  (17, 1), (19, 2), (23, 2), (27, 2), (31, 2), (35, 3), (43, 3), (51, 3), (59, 3), (67, 4), (83, 4),
  (99, 4), (115, 4), (131, 5), (163, 5), (195, 5), (227, 5), (258, 0)]

/-- The least distance of each distance symbol, and the bits that add to it. -/
def distanceBases : List (Nat × Nat) := [
  (1, 0), (2, 0), (3, 0), (4, 0), (5, 1), (7, 1), (9, 2), (13, 2), (17, 3), (25, 3), (33, 4),
  (49, 4), (65, 5), (97, 5), (129, 6), (193, 6), (257, 7), (385, 7), (513, 8), (769, 8), (1025, 9),
  (1537, 9), (2049, 10), (3073, 10), (4097, 11), (6145, 11), (8193, 12), (12289, 12), (16385, 13),
  (24577, 13)]

/-- Reads a number above a base. -/
def takeAbove (base : Nat × Nat) (bits : List Bool) : Option (Nat × List Bool) :=
  (takeNumber base.2 bits).map fun (n, bits) => (base.1 + n, bits)

/-- Copies so many bytes from a distance back; the output so far has its last byte first. -/
def copyBack (distance : Nat) : (count : Nat) → Bytes → Option Bytes
  | 0, out => some out
  | count + 1, out =>
    match out[distance - 1]? with
    | some b => copyBack distance count (b :: out)
    | none => none

/-- Reads the symbols of a block. -/
def readSymbols (literals distances : Code) : (fuel : Nat) → Bytes → List Bool →
    Option (Bytes × List Bool)
  | 0, _, _ => none
  | fuel + 1, out, bits => do
    let (symbol, bits) ← literals.read bits
    if symbol < 256 then readSymbols literals distances fuel (UInt8.ofNat symbol :: out) bits
    else if symbol = 256 then some (out, bits)
    else
      -- Any other symbol is the length of a copy, behind which its distance stands.
      let (length, bits) ← takeAbove (← lengthBases[symbol - 257]?) bits
      let (word, bits) ← distances.read bits
      let (distance, bits) ← takeAbove (← distanceBases[word]?) bits
      let out ← copyBack distance length out
      readSymbols literals distances fuel out bits

/-! ## Blocks -/

/-- Reads a plain block; `offset` is the number of bits in front of the rest. -/
def readPlain (total : Nat) (out : Bytes) (bits : List Bool) : Option (Bytes × List Bool) := do
  -- A plain block starts with a whole byte.
  let bits := bits.drop (bits.length % 8)
  let (length, bits) ← takeNumber 16 bits
  let (complement, bits) ← takeNumber 16 bits
  -- The second number is the complement of the first.
  if length + complement = 65535 ∧ length ≤ total then
    let (bytes, bits) ← takeBytes length bits
    return (bytes.reverse ++ out, bits)
  else none

/-- Reads blocks up to the last one. -/
def readBlocks : (fuel : Nat) → Bytes → List Bool → Option (Bytes × List Bool)
  | 0, _, _ => none
  | fuel + 1, out, bits => do
    let (last, bits) ← takeNumber 1 bits
    let (sort, bits) ← takeNumber 2 bits
    let (out, bits) ←
      if sort = 0 then readPlain bits.length out bits
      else if sort = 1 then
        readSymbols (.ofLengths fixedLengths) (.ofLengths fixedDistances) (bits.length + 1) out bits
      else if sort = 2 then do
        let (literals, distances, bits) ← readCodes bits
        readSymbols literals distances (bits.length + 1) out bits
      else none
    if last = 1 then some (out, bits) else readBlocks fuel out bits

/-- Reads compressed data; answers it with the bytes behind it. -/
def inflate (bytes : Bytes) : Option (Bytes × Bytes) := do
  let bits := bytes.flatMap bitsOfByte
  let (out, bits) ← readBlocks (bits.length + 1) [] bits
  return (out.reverse, bytes.drop (bytes.length - bits.length / 8))

end ImageIntake.Files.Inflate
