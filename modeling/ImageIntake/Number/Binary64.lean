/-
  ImageIntake.Number.Binary64

  IEEE 754 double precision numbers as their 64 bits, with exact readings in
  both directions: the value a pattern stands for, the pattern nearest to a
  fraction of naturals, and the fewest decimal digits that read back.
-/

import ImageIntake.Number.Power

namespace ImageIntake.Number

/-- A double precision number, as its bits. -/
structure Binary64 where
  bits : UInt64
deriving DecidableEq, Repr

/-- What the bits of a number say: a finite one is `mantissa * 2 ^ exponent`. -/
inductive Binary64.Content where
  | nan
  | infinite (negative : Bool)
  | finite (negative : Bool) (mantissa : Nat) (exponent : Int)
deriving DecidableEq, Repr

namespace Binary64

/-! ## Reading the bits -/

/-- The machine number with these bits. -/
def toFloat (x : Binary64) : Float := Float.ofBits x.bits

/-- The bits of a machine number. -/
def ofFloat (x : Float) : Binary64 := ⟨x.toBits⟩

/-- Whether the sign bit is set. -/
def negative (x : Binary64) : Bool := x.bits.toNat / twoTo 63 == 1

/-- The eleven bits of the exponent. -/
def exponentField (x : Binary64) : Nat := x.bits.toNat / twoTo 52 % twoTo 11

/-- The fifty-two bits of the fraction. -/
def fractionField (x : Binary64) : Nat := x.bits.toNat % twoTo 52

/-- What the bits say. -/
def content (x : Binary64) : Content :=
  if x.exponentField = 2047 then
    if x.fractionField = 0 then .infinite x.negative else .nan
  else if x.exponentField = 0 then .finite x.negative x.fractionField (-1074)
  else .finite x.negative (twoTo 52 + x.fractionField) ((x.exponentField : Int) - 1075)

/-- Whether the bits stand for a real number. -/
def isFinite (x : Binary64) : Bool := x.exponentField ≠ 2047

/-- Whether the number is above zero; no number is below or above a NaN. -/
def isPositive (x : Binary64) : Bool :=
  match x.content with
  | .nan => false
  | .infinite negative => !negative
  | .finite negative mantissa _ => !negative && mantissa != 0

/-! ## Writing the bits -/

/-- The pattern of a sign and a magnitude pattern. -/
def ofMagnitude (negative : Bool) (magnitude : Nat) : Binary64 :=
  ⟨UInt64.ofNat ((if negative then twoTo 63 else 0) + magnitude)⟩

/-- Infinity of either sign. -/
def infinity (negative : Bool) : Binary64 := ofMagnitude negative (2047 * twoTo 52)

/-- Zero of either sign. -/
def zero (negative : Bool) : Binary64 := ofMagnitude negative 0

/-- The pattern of no number, which may have a sign too. -/
def notANumber (negative : Bool) : Binary64 := ofMagnitude negative (2047 * twoTo 52 + twoTo 51)

/-- `num / den` to the nearest whole number, a half going to the even neighbour. -/
def roundDiv (num den : Nat) : Nat :=
  let below := num / den
  let rest := num % den
  if 2 * rest < den then below
  else if den < 2 * rest then below + 1
  else if below % 2 = 0 then below else below + 1

/-- The magnitude pattern of `mantissa * 2 ^ exponent`, where the mantissa has at most 53 bits and
the exponent is at least -1074. -/
def packMagnitude (mantissa : Nat) (exponent : Int) : Nat :=
  if mantissa < twoTo 52 then mantissa
  else
    let field := (exponent + 1075).toNat
    if 2047 ≤ field then 2047 * twoTo 52 else field * twoTo 52 + (mantissa - twoTo 52)

/-- The number nearest to the fraction `num / den`. -/
def ofFraction (negative : Bool) (num den : Nat) : Binary64 :=
  if num = 0 ∨ den = 0 then zero negative
  else
    let scaled (q : Int) : Nat × Nat :=
      if 0 ≤ q then (num, den * twoTo q.toNat) else (num * twoTo (-q).toNat, den)
    -- Here the quotient has 53 or 54 bits, or fewer at the least exponent.
    let low : Int := max (-1074) ((Nat.log2 num : Int) - Nat.log2 den - 53)
    let first := scaled low
    let q := if first.1 / first.2 < twoTo 53 then low else low + 1
    let chosen := scaled q
    let mantissa := roundDiv chosen.1 chosen.2
    -- Rounding up may have made one more bit.
    if mantissa = twoTo 53 then ofMagnitude negative (packMagnitude (twoTo 52) (q + 1))
    else ofMagnitude negative (packMagnitude mantissa q)

/-- The number nearest to `digits * tenTo exponent`.  Exponents beyond the range of the format give
zero or infinity without any arithmetic on them. -/
def ofDecimal (negative : Bool) (digits : Nat) (exponent : Int) : Binary64 :=
  if digits = 0 then zero negative
  else
    let size : Int := (Nat.toDigits 10 digits).length + exponent
    if 400 < size then infinity negative
    else if size < -400 then zero negative
    else if 0 ≤ exponent then ofFraction negative (digits * tenTo exponent.toNat) 1
    else ofFraction negative digits (tenTo (-exponent).toNat)

/-- The number nearest to a whole number. -/
def ofInt (n : Int) : Binary64 := ofFraction (n < 0) n.natAbs 1

/-! ## Whole parts -/

/-- The value of a finite number cut off towards zero. -/
def truncate? (x : Binary64) : Option Int :=
  match x.content with
  | .finite negative mantissa exponent =>
    let size := if 0 ≤ exponent then mantissa * twoTo exponent.toNat
      else mantissa / twoTo (-exponent).toNat
    some (if negative then -(size : Int) else size)
  | _ => none

/-- The value of a finite number that is whole. -/
def whole? (x : Binary64) : Option Int :=
  match x.content with
  | .finite _ mantissa exponent =>
    if exponent < 0 ∧ mantissa % twoTo (-exponent).toNat ≠ 0 then none else x.truncate?
  | _ => none

/-! ## Shortest digits -/

/-- A decimal number `digits * tenTo exponent`. -/
structure Decimal where
  digits : Nat
  exponent : Int
deriving DecidableEq, Repr

/-- The same number without trailing zero digits. -/
def Decimal.trimmed (d : Decimal) (fuel : Nat) : Decimal :=
  match fuel with
  | 0 => d
  | fuel + 1 =>
    if d.digits % 10 = 0 ∧ d.digits ≠ 0 then
      Decimal.trimmed ⟨d.digits / 10, d.exponent + 1⟩ fuel
    else d

/-- A positive number `num / den` with the bounds of the numbers that round to it, all over four
times the denominator; the bounds count if `closed`. -/
structure Rounding where
  value : Nat
  low : Nat
  high : Nat
  den : Nat
  closed : Bool

/-- What rounds to `mantissa * 2 ^ exponent`: half a step to each side, a quarter below a power of
two, where the steps change. -/
def roundingOf (mantissa : Nat) (exponent : Int) : Rounding :=
  let scale := twoTo exponent.toNat
  let below := if mantissa = twoTo 52 ∧ -1074 < exponent then 1 else 2
  { value := 4 * mantissa * scale
    low := (4 * mantissa - below) * scale
    high := (4 * mantissa + 2) * scale
    den := 4 * twoTo (-exponent).toNat
    closed := mantissa % 2 = 0 }

/-- The number of digits before the point, negative for leading zeros after it. -/
def decimalPoint (r : Rounding) : Int :=
  ((Nat.toDigits 10 (r.value * tenTo 400 / r.den)).length : Int) - 400

/-- The nearest of the two neighbours on the grid of `count` digits that rounds back, if any. -/
def shortestOn (r : Rounding) (point : Int) (count : Nat) : Option Decimal :=
  let step : Int := point - count
  let up := tenTo (-step).toNat
  let den := r.den * tenTo step.toNat
  -- Candidates are compared with the bounds over the common denominator.
  let fits (c : Nat) : Bool :=
    if r.closed then r.low * up ≤ c * den && c * den ≤ r.high * up
    else r.low * up < c * den && c * den < r.high * up
  let c := r.value * up / den
  let distBelow := r.value * up - c * den
  let distAbove := (c + 1) * den - r.value * up
  match fits c && c != 0, fits (c + 1) with
  | true, true =>
    let nearest := if distBelow < distAbove then c
      else if distAbove < distBelow then c + 1
      else if c % 2 = 0 then c else c + 1
    some ⟨nearest, step⟩
  | true, false => some ⟨c, step⟩
  | false, true => some ⟨c + 1, step⟩
  | false, false => none

/-- The fewest digits that read back as `mantissa * 2 ^ exponent`. -/
def shortest (mantissa : Nat) (exponent : Int) : Decimal :=
  if mantissa = 0 then ⟨0, 0⟩
  else
    let r := roundingOf mantissa exponent
    let point := decimalPoint r
    match (List.range 17).findSome? fun n => shortestOn r point (n + 1) with
    | some d => d.trimmed 400
    | none => ⟨r.value / r.den, 0⟩

end Binary64

end ImageIntake.Number
