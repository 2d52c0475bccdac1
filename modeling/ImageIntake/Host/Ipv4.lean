/-
  ImageIntake.Host.Ipv4

  Dotted IPv4 addresses.  A host that looks like four runs of digits between
  dots is held to be meant as an address and has to be a valid one.
-/

namespace ImageIntake.Host

/-! ## The look of an address -/

/-- Whether a host looks like a dotted address: four runs of digits with dots between them. -/
def looksDotted (host : List Char) : Bool :=
  let parts := host.splitOn '.'
  parts.length = 4 && parts.all fun part => !part.isEmpty && part.all Char.isDigit

/-! ## Validity -/

/-- One part of an address: one to three digits without a leading zero, up to 255. -/
def octet? (part : List Char) : Option Nat :=
  if part.isEmpty ∨ 3 < part.length ∨ !part.all Char.isDigit then none
  else if 1 < part.length ∧ part.head? = some '0' then none
  else
    let value := part.foldl (fun acc c => acc * 10 + (c.toNat - '0'.toNat)) 0
    if value ≤ 255 then some value else none

/-- Whether a text is a valid dotted address. -/
def isIpv4 (host : List Char) : Bool :=
  let parts := host.splitOn '.'
  parts.length = 4 && parts.all fun part => (octet? part).isSome

end ImageIntake.Host
