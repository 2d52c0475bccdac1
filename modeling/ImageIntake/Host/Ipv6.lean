/-
  ImageIntake.Host.Ipv6

  IPv6 addresses in text: up to eight groups of hexadecimal digits, one run of
  zero groups skipped by `::`, the last two groups perhaps as a dotted IPv4
  address, and a scope after a percent sign.
-/

import ImageIntake.Host.Ipv4
import ImageIntake.Text.RangeTable

namespace ImageIntake.Host

/-- A group of one to four hexadecimal digits. -/
def isGroup (part : List Char) : Bool :=
  !part.isEmpty && part.length ≤ 4 && part.all fun c => (Text.hexDigit? c).isSome

/-- The groups of an address: a dotted ending counts as two groups. -/
def groups? (address : List Char) : Option (List (List Char)) :=
  let parts := address.splitOn ':'
  if parts.length < 3 then none
  else
    let last := parts.getLastD []
    if last.contains '.' then
      if isIpv4 last then some (parts.dropLast ++ [['0'], ['0']]) else none
    else some parts

/-- Positions of the empty groups inside an address, the first and the last group apart. -/
def innerGaps (parts : List (List Char)) : List Nat :=
  (List.range parts.length).filter fun i =>
    0 < i && i + 1 < parts.length && (parts.getD i ['0']).isEmpty

/-- Whether the groups before and after a gap are sound: a group may be empty only at the very end
of the address and only next to the gap, and the gap stands for at least one group. -/
def gapFits (before after : List (List Char)) : Bool :=
  let high := if before.head? = some [] then before.drop 1 else before
  let low := if after.getLast? = some [] then after.dropLast else after
  (high.length = before.length || high.isEmpty) && (low.length = after.length || low.isEmpty) &&
    high.length + low.length < 8 && high.all isGroup && low.all isGroup

/-- Whether a text without a scope is a valid address. -/
def isIpv6Address (address : List Char) : Bool :=
  match groups? address with
  | none => false
  | some parts =>
    if 9 < parts.length then false
    else match innerGaps parts with
      | [] => parts.length = 8 && parts.all isGroup
      | [gap] => gapFits (parts.take gap) (parts.drop (gap + 1))
      | _ => false

/-- Whether a text is a valid address, perhaps with a scope. -/
def isIpv6 (host : List Char) : Bool :=
  match host.span (· ≠ '%') with
  | (address, []) => isIpv6Address address
  | (address, _ :: scope) => !scope.isEmpty && !scope.contains '%' && isIpv6Address address

end ImageIntake.Host
