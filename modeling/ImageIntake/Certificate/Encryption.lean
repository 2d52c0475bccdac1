/-
  ImageIntake.Certificate.Encryption

  The header of a block that says its data is encrypted: by which cipher, and
  from which initial value.
-/

import ImageIntake.Text.Hex
import ImageIntake.Text.LetterCase

namespace ImageIntake.Certificate

/-! ## Ciphers -/

/-- The ciphers on blocks of sixteen octets. -/
def wideCiphers : List String := [
  "aes-128", "aes-192", "aes-256", "aria-128", "aria-192", "aria-256",
  "camellia-128", "camellia-192", "camellia-256", "seed", "sm4"]

/-- The ciphers on blocks of eight octets. -/
def narrowCiphers : List String := [
  "des", "des-ede", "des-ede3", "desx", "rc2", "rc2-40", "rc2-64", "bf", "cast5"]

/-- The ways to go on from block to block that start with a block. -/
def chainings : List String := ["cbc", "cfb", "ofb", "cfb1", "cfb8", "ctr"]

/-- The ways that also vouch for the data; their initial value is shorter. -/
def sealings : List String := ["gcm", "ccm"]

/-- The short names of wide ciphers, and of narrow ones. -/
def shortNames : List String × List String :=
  (["aes128", "aes192", "aes256", "camellia128", "camellia192", "camellia256", "seed", "sm4"],
    ["des", "des3", "desx", "rc2", "bf", "blowfish", "cast"])

/-- The names of ciphers that go on in one of these ways. -/
def joinedNames (ciphers ways : List String) : List String :=
  ciphers.flatMap fun cipher => ways.map fun way => cipher ++ "-" ++ way

/-- How many octets the initial value of a cipher takes. -/
def initialLength? (cipher : String) : Option Nat :=
  let name := Text.asciiLower cipher
  if (joinedNames wideCiphers chainings ++ shortNames.1).contains name then some 16
  else if (joinedNames narrowCiphers chainings ++ shortNames.2).contains name then some 8
  else if (joinedNames wideCiphers sealings).contains name then some 12
  else none

/-! ## Headers -/

/-- What follows a word at the start of a text. -/
def after? (word : String) (cs : List Char) : Option (List Char) :=
  if word.toList.isPrefixOf cs then some (cs.drop word.length) else none

/-- Whether a character parts the words of a header. -/
def partsWords (c : Char) : Bool := c = ' ' || c = '\t'

/-- What follows the blanks at the start of a text. -/
def pastBlanks (cs : List Char) : List Char := cs.dropWhile partsWords

/-- Whether a header says that the data is encrypted, with a cipher that is known and an initial
value that is long enough for it. -/
def saysEncrypted (header : String) : Bool :=
  Option.isSome do
    let cs ← after? "Proc-Type:" header.toList
    let cs ← after? "4," (pastBlanks cs)
    let cs ← after? "ENCRYPTED" (pastBlanks cs)
    let cs ← after? "\n" (pastBlanks cs)
    let cs ← after? "DEK-Info:" cs
    let cs := pastBlanks cs
    let cipher := cs.takeWhile fun c => !partsWords c && c ≠ ','
    let length ← initialLength? (String.ofList cipher)
    let cs ← after? "," (pastBlanks (cs.drop cipher.length))
    guard (2 * length ≤ (cs.takeWhile fun c => (Text.hexDigit? c).isSome).length)

end ImageIntake.Certificate
