/-
  ImageIntake.Files.Gzip

  Archives of one member.  Packing stores the data in plain blocks behind a
  header and puts the checksum and the length at the end; unpacking reads plain
  and compressed blocks alike, and checks both.
-/

import ImageIntake.Files.Inflate
import ImageIntake.Number.Power

namespace ImageIntake.Files.Gzip

open ImageIntake.Number

/-! ## Checksum -/

/-- One bit of the checksum. -/
def checksumBit (c : UInt32) : UInt32 :=
  if c &&& 1 = 1 then (c >>> 1) ^^^ 0xEDB88320 else c >>> 1

/-- One byte of the checksum. -/
def checksumByte (c : UInt32) (b : UInt8) : UInt32 :=
  (List.range 8).foldl (fun c _ => checksumBit c) (c ^^^ b.toUInt32)

/-- The checksum of bytes. -/
def checksum (bytes : Bytes) : UInt32 :=
  bytes.foldl checksumByte 0xFFFFFFFF ^^^ 0xFFFFFFFF

/-! ## Numbers -/

/-- A number in so many bytes, the lowest first. -/
def littleEndian : (count : Nat) → Nat → Bytes
  | 0, _ => []
  | count + 1, n => UInt8.ofNat (n % 256) :: littleEndian count (n / 256)

/-- The number of bytes whose lowest is first. -/
def ofLittleEndian : Bytes → Nat
  | [] => 0
  | b :: rest => b.toNat + 256 * ofLittleEndian rest

/-! ## Packing -/

/-- The most bytes of a plain block. -/
def blockLimit : Nat := 65535

/-- A plain block. -/
def plainBlock (last : Bool) (bytes : Bytes) : Bytes :=
  (if last then 1 else 0) :: littleEndian 2 bytes.length ++
    littleEndian 2 (blockLimit - bytes.length) ++ bytes

/-- Bytes in plain blocks. -/
def plainBlocks (bytes : Bytes) : Bytes :=
  if bytes.length ≤ blockLimit then plainBlock true bytes
  else plainBlock false (bytes.take blockLimit) ++ plainBlocks (bytes.drop blockLimit)
termination_by bytes.length
decreasing_by
  simp only [List.length_drop, blockLimit] at *
  omega

/-- The header of an archive without a name or a time. -/
def header : Bytes := [0x1F, 0x8B, 8, 0, 0, 0, 0, 0, 0, 255]

/-- Packs bytes into an archive. -/
def pack (bytes : Bytes) : Bytes :=
  header ++ plainBlocks bytes ++ littleEndian 4 (checksum bytes).toNat ++
    littleEndian 4 (bytes.length % twoTo 32)

/-! ## Unpacking -/

/-- Skips a text of the header, which ends in a zero byte. -/
def skipText (bytes : Bytes) : Bytes :=
  (bytes.dropWhile (· ≠ 0)).drop 1

/-- What stands behind the header of an archive. -/
def skipHeader? : Bytes → Option Bytes
  | 0x1F :: 0x8B :: 8 :: flags :: _ :: _ :: _ :: _ :: _ :: _ :: rest =>
    let rest :=
      -- Extra data, a name, a remark and a checksum may follow, in this order.
      if flags &&& 4 = 0 then rest else rest.drop (2 + ofLittleEndian (rest.take 2))
    let rest := if flags &&& 8 = 0 then rest else skipText rest
    let rest := if flags &&& 16 = 0 then rest else skipText rest
    some (if flags &&& 2 = 0 then rest else rest.drop 2)
  | _ => none

/-- Unpacks one archive; answers its data and what stands behind it. -/
def unpackOne? (bytes : Bytes) : Option (Bytes × Bytes) := do
  let (data, rest) ← Inflate.inflate (← skipHeader? bytes)
  let trailer := rest.take 8
  if trailer.length = 8 ∧ ofLittleEndian (trailer.take 4) = (checksum data).toNat ∧
      ofLittleEndian (trailer.drop 4) = data.length % twoTo 32 then
    some (data, rest.drop 8)
  else none

/-- Unpacks archives that stand behind one another. -/
def unpackAll? : (fuel : Nat) → Bytes → Option Bytes
  | 0, _ => none
  | fuel + 1, bytes =>
    if bytes.all (· = 0) then some []
    else do
      let (data, rest) ← unpackOne? bytes
      return data ++ (← unpackAll? fuel rest)

/-- Unpacks an archive. -/
def unpack? (bytes : Bytes) : Option Bytes :=
  if bytes.isEmpty then none else unpackAll? (bytes.length + 1) bytes

end ImageIntake.Files.Gzip
