/-
  ImageIntake.Host.Punycode

  Punycode (bootstring with the parameters of internationalised host names):
  the characters beyond ASCII of a label become variable-length numbers in base
  36 after its ASCII characters.  Labels are lists of code points.
-/

namespace ImageIntake.Host.Punycode

/-! ## Digits and bias -/

/-- The digit of a value below thirty-six. -/
def digit (n : Nat) : Char :=
  if n < 26 then Char.ofNat ('a'.toNat + n) else Char.ofNat ('0'.toNat + (n - 26))

/-- The value of a digit; letters of either case are read. -/
def digitValue? (c : Char) : Option Nat :=
  if 'a' ≤ c ∧ c ≤ 'z' then some (c.toNat - 'a'.toNat)
  else if 'A' ≤ c ∧ c ≤ 'Z' then some (c.toNat - 'A'.toNat)
  else if '0' ≤ c ∧ c ≤ '9' then some (c.toNat - '0'.toNat + 26)
  else none

/-- The threshold of the digit at a position, between 1 and 26. -/
def threshold (position bias : Nat) : Nat :=
  let t := 36 * (position + 1) - bias
  if t < 1 then 1 else if 26 < t then 26 else t

theorem threshold_pos (position bias : Nat) : 1 ≤ threshold position bias := by
  simp only [threshold]
  repeat' split
  all_goals omega

theorem threshold_le (position bias : Nat) : threshold position bias ≤ 26 := by
  simp only [threshold]
  repeat' split
  all_goals omega

/-- Divides a large delta down, counting the divisions in steps of thirty-six. -/
def settle (delta divisions : Nat) : Nat × Nat :=
  if 455 < delta then settle (delta / 35) (divisions + 36) else (delta, divisions)
termination_by delta
decreasing_by exact Nat.div_lt_self (by omega) (by omega)

/-- The bias after a delta, given whether it was the first and how many code points now stand. -/
def adapt (delta : Nat) (first : Bool) (count : Nat) : Nat :=
  let halved := if first then delta / 700 else delta / 2
  let (rest, divisions) := settle (halved + halved / count) 0
  divisions + 36 * rest / (rest + 38)

/-! ## Encoding -/

/-- A delta as a number of variable length. -/
def encodeDelta (bias n position : Nat) : List Char :=
  let t := threshold position bias
  if n < t then [digit n]
  else digit (t + (n - t) % (36 - t)) :: encodeDelta bias ((n - t) / (36 - t)) (position + 1)
termination_by n
decreasing_by
  have low := threshold_pos position bias
  have high := threshold_le position bias
  have small : (n - threshold position bias) / (36 - threshold position bias) ≤
      n - threshold position bias := Nat.div_le_self ..
  omega

/-- Where the encoder stands: the bias, the delta so far and the number of code points handled. -/
structure Encoder where
  bias : Nat := 72
  delta : Nat := 0
  handled : Nat
  base : Nat
  out : List Char := []

/-- Passes the label once for one code point: smaller ones lengthen the delta and equal ones write
it. -/
def encodePass (label : List Nat) (code : Nat) (e : Encoder) : Encoder :=
  label.foldl (fun e c =>
    if c < code then { e with delta := e.delta + 1 }
    else if c = code then
      { e with
        out := e.out ++ encodeDelta e.bias e.delta 0
        bias := adapt e.delta (e.handled = e.base) (e.handled + 1)
        delta := 0
        handled := e.handled + 1 }
    else e) e

/-- The code points beyond ASCII in rising order, each once. -/
def extended (label : List Nat) : List Nat :=
  ((label.filter (0x80 ≤ ·)).mergeSort (· ≤ ·)).eraseDups

/-- Encodes the code points beyond ASCII, the least first; `next` is the least not yet passed. -/
def encodeCodes (label : List Nat) : (next : Nat) → List Nat → Encoder → Encoder
  | _, [], e => e
  | next, code :: codes, e =>
    let e := { e with delta := e.delta + (code - next) * (e.handled + 1) }
    let e := encodePass label code e
    encodeCodes label (code + 1) codes { e with delta := e.delta + 1 }

/-- The Punycode of a label. -/
def encode (label : List Nat) : List Char :=
  let base := (label.filter (· < 0x80)).map Char.ofNat
  let e := encodeCodes label 0x80 (extended label) { handled := base.length, base := base.length }
  (if base.isEmpty then [] else base ++ ['-']) ++ e.out

/-! ## Decoding -/

/-- Reads a number of variable length; `none` for a foreign digit or a missing end. -/
def decodeDelta (bias : Nat) : (position weight acc : Nat) → List Char → Option (Nat × List Char)
  | _, _, _, [] => none
  | position, weight, acc, c :: rest =>
    match digitValue? c with
    | none => none
    | some d =>
      let t := threshold position bias
      let acc := acc + d * weight
      if d < t then some (acc, rest)
      else decodeDelta bias (position + 1) (weight * (36 - t)) acc rest

theorem length_decodeDelta_lt {bias position weight acc : Nat} {cs rest : List Char} {n : Nat}
    (h : decodeDelta bias position weight acc cs = some (n, rest)) : rest.length < cs.length := by
  induction cs generalizing position weight acc with
  | nil => simp [decodeDelta] at h
  | cons c cs ih =>
    rw [decodeDelta] at h
    split at h
    · simp at h
    · dsimp only at h
      split at h
      · obtain ⟨-, rfl⟩ := Prod.mk.inj (Option.some.inj h)
        exact Nat.lt_succ_self _
      · exact Nat.lt_succ_of_lt (ih h)

/-- Inserts the numbered code points one after the other; `index` counts positions from the start
of the pass. -/
def decodeFrom (label : List Nat) (code index bias : Nat) (first : Bool) (cs : List Char) :
    Option (List Nat) :=
  match cs with
  | [] => some label
  | c :: cs =>
    match h : decodeDelta bias 0 1 0 (c :: cs) with
    | none => none
    | some (delta, rest) =>
      let index := index + delta
      let size := label.length + 1
      let code := code + index / size
      if 0x10FFFF < code then none
      else
        -- The quotient has gone into the code point; the remainder is the place.
        let place := index % size
        let label := label.take place ++ code :: label.drop place
        decodeFrom label code (place + 1) (adapt delta first label.length) false rest
termination_by cs.length
decreasing_by exact length_decodeDelta_lt h

/-- The ASCII code points before the last hyphen, and what follows it.  A hyphen with nothing before
it parts nothing, and is left among the digits, of which it is none. -/
def splitBase (cs : List Char) : List Char × List Char :=
  let tail := (cs.reverse.takeWhile (· ≠ '-')).reverse
  let base := cs.take (cs.length - tail.length - 1)
  if base.isEmpty then ([], cs) else (base, tail)

/-- The label that a Punycode text stands for. -/
def decode (cs : List Char) : Option (List Nat) :=
  let (base, digits) := splitBase cs
  decodeFrom (base.map Char.toNat) 0x80 0 72 true digits

end ImageIntake.Host.Punycode
