/-
  ImageIntake.Text.Base64

  Bytes as Base64 text with padding, and the reading of it.
-/

import ImageIntake.Text.Utf8

namespace ImageIntake.Text

/-- The sixty-four letters in the order of their values. -/
def base64Letters : List Char :=
  "ABCDEFGHIJKLMNOPQRSTUVWXYZabcdefghijklmnopqrstuvwxyz0123456789+/".toList

/-- The letter of a value below sixty-four. -/
def base64Letter (n : Nat) : Char :=
  base64Letters.getD n '='

/-- Three bytes at a time become four letters; a last group is filled with `=`. -/
def base64Chars : Bytes → List Char
  | [] => []
  | [a] => [base64Letter (a.toNat / 4), base64Letter (a.toNat % 4 * 16), '=', '=']
  | [a, b] =>
    [base64Letter (a.toNat / 4), base64Letter (a.toNat % 4 * 16 + b.toNat / 16),
      base64Letter (b.toNat % 16 * 4), '=']
  | a :: b :: c :: rest =>
    base64Letter (a.toNat / 4) :: base64Letter (a.toNat % 4 * 16 + b.toNat / 16) ::
      base64Letter (b.toNat % 16 * 4 + c.toNat / 64) :: base64Letter (c.toNat % 64) ::
      base64Chars rest

/-- Bytes as Base64 text. -/
def base64 (bs : Bytes) : String :=
  String.ofList (base64Chars bs)

/-- The value of a letter. -/
def base64Value? (c : Char) : Option Nat :=
  base64Letters.findIdx? (· == c)

/-- Reads groups of four letters, the last perhaps filled with `=`. -/
def bytesOfBase64? : List Char → Option Bytes
  | [] => some []
  | a :: b :: c :: d :: rest => do
    let w ← base64Value? a
    let x ← base64Value? b
    let first := UInt8.ofNat (w * 4 + x / 16)
    match c, d, rest with
    | '=', '=', [] => return [first]
    | _, '=', [] =>
      let y ← base64Value? c
      return [first, UInt8.ofNat (x % 16 * 16 + y / 4)]
    | _, _, _ =>
      let y ← base64Value? c
      let z ← base64Value? d
      let more ← bytesOfBase64? rest
      return first :: UInt8.ofNat (x % 16 * 16 + y / 4) :: UInt8.ofNat (y % 4 * 64 + z) :: more
  | _ => none

end ImageIntake.Text
