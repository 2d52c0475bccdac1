/-
  ImageIntake.Certificate.Bundle

  The certificates of a file of armoured blocks.  Certificates, lists of revoked
  ones and private keys have to be sound, or the file gives nothing; blocks with
  other labels are passed over.
-/

import ImageIntake.Certificate.Armour
import ImageIntake.Certificate.Element
import ImageIntake.Certificate.Encryption

namespace ImageIntake.Certificate

open Shape

/-! ## Shapes -/

/-- An algorithm with its parameters. -/
def algorithm : Shape := sequence [identifier, orNothing anything]

/-- The kinds of text in a name besides bits and Unicode; some of them are in no use any more. -/
def textKinds : List UInt8 := [
  0x07, 0x08, 0x09, 0x0B, 0x0D, 0x0E, 0x0F, 0x12, 0x13, 0x14, 0x16, 0x1C, 0x1D, 0x1E, 0x30]

/-- The text of a name: of any kind, wide characters being complete. -/
def nameText : Shape where
  kinds kind := textKinds.contains kind || bits.kinds kind || unicodeText.kinds kind
  fits e :=
    if e.kind = 0x1C then e.content.length % 4 == 0
    else if e.kind = 0x1E then e.content.length % 2 == 0
    else [bits, unicodeText].all fun s => !s.kinds e.kind || s.fits e

/-- A name: sets of attributes. -/
def name : Shape := sequenceOf (setOf (sequence [identifier, nameText]))

/-- An extension, which may be critical. -/
def extension : Shape := sequence [identifier, orNothing boolean, octets]

/-- What a certificate says: its version and number, who issued it by which algorithm, from when
to when, for whom and which key, and further identifiers and extensions. -/
def statement : Shape := sequence [
  orNothing (numbered 0xA0 integer), integer, algorithm, name, sequence [time, time], name,
  sequence [algorithm, bits], orNothing (tagged 0x81 bits), orNothing (tagged 0x82 bits),
  orNothing (numbered 0xA3 (sequenceOf extension))]

/-- A certificate: what it says, signed. -/
def certificate : Shape := sequence [statement, algorithm, bits]

/-- Whom and what a certificate is trusted for, and its name. -/
def trustNote : Shape := sequence [
  orNothing (sequenceOf identifier), orNothing (tagged 0xA0 (sequenceOf identifier)),
  orNothing unicodeText, orNothing octets, orNothing (tagged 0xA1 (sequenceOf algorithm))]

/-- A revoked certificate. -/
def revoked : Shape := sequence [integer, time, orNothing (sequenceOf extension)]

/-- A list of revoked certificates, signed. -/
def revocationList : Shape := sequence [
  sequence [orNothing integer, algorithm, name, time, orNothing time,
    orNothing (sequenceOf revoked), orNothing (numbered 0xA0 (sequenceOf extension))],
  algorithm, bits]

/-- A private key: numbers alone, a number on a curve, or either with its algorithm. -/
def privateKeys : List Shape := [
  sequence (List.replicate 9 integer),
  sequence (List.replicate 6 integer),
  sequence [integer, octets, orNothing (numbered 0xA0 anything), orNothing (numbered 0xA1 bits)],
  sequence [integer, algorithm, ofKind 0x04 (contentFits (partsFit [anything])),
    orNothing ⟨(· == 0xA0), fun _ => true⟩, orNothing (tagged 0x81 bits)]]

/-! ## Blocks -/

/-- What a file gives: certificates, and how many lists of revoked ones. -/
structure Bundle where
  certificates : List Bytes := []
  revocations : Nat := 0
deriving DecidableEq, Repr

/-- The first element of data as its octets, if it has a shape, and what follows it. -/
def leading? (s : Shape) (data : Bytes) : Option (Bytes × Bytes) :=
  match takeElement? data with
  | some (e, rest) =>
    if s.matchesElement e then some (data.take (data.length - rest.length), rest) else none
  | none => none

/-- Whether data starts with an element of a shape. -/
def startsWith (s : Shape) (data : Bytes) : Bool := (leading? s data).isSome

/-- The length of a header that is taken for one of encryption. -/
def headerLimit : Nat := 10

/-- Whether the block of a private key is sound.  An encrypted key is not looked into. -/
def keyFits (b : Block) : Bool :=
  if headerLimit < b.header.length then saysEncrypted b.header
  else b.header.isEmpty &&
    (b.label == "ENCRYPTED PRIVATE KEY" || privateKeys.any fun s => startsWith s b.data)

/-- Whether a label is that of a private key. -/
def isKeyLabel (label : String) : Bool :=
  label == "PRIVATE KEY" || " PRIVATE KEY".toList.isSuffixOf label.toList

/-- Adds a block to what a file gives; no answer if it is unsound.  Nothing that is decoded may have
a header. -/
def Bundle.add? (bundle : Bundle) (b : Block) : Option Bundle :=
  if b.label = "CERTIFICATE" ∨ b.label = "X509 CERTIFICATE" then
    match leading? certificate b.data with
    | some (found, _) =>
      if b.header = "" then some { bundle with certificates := bundle.certificates ++ [found] }
      else none
    | none => none
  else if b.label = "TRUSTED CERTIFICATE" then
    match leading? certificate b.data with
    | some (found, rest) =>
      if b.header = "" ∧ (rest.isEmpty ∨ startsWith trustNote rest) then
        some { bundle with certificates := bundle.certificates ++ [found] }
      else none
    | none => none
  else if b.label = "X509 CRL" then
    if b.header = "" ∧ startsWith revocationList b.data then
      some { bundle with revocations := bundle.revocations + 1 }
    else none
  else if isKeyLabel b.label then if keyFits b then some bundle else none
  else some bundle

/-- What a file gives; no answer if it has no certificates and no lists, or an unsound block. -/
def Bundle.read? (content : Bytes) : Option Bundle := do
  let bundle ← (← blocks? content).foldlM Bundle.add? {}
  if bundle.certificates.isEmpty && bundle.revocations = 0 then none else some bundle

end ImageIntake.Certificate
