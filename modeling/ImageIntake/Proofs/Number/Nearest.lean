/-
  ImageIntake.Proofs.Number.Nearest

  A fraction is read as the double precision number that no other is nearer to
  (`isNearest_ofFraction`).  The fraction is counted in steps of a power of two, so many
  that the count has 53 bits or the steps are the least there are (`step_bounds`), and the
  count is rounded.  A number with coarser steps lies on the same grid (`steps_nearest`);
  one with finer steps does not reach that far up (`steps_nearest_value`).
-/

import Mathlib.Algebra.Order.Field.Power
import Mathlib.Tactic.Linarith
import Mathlib.Tactic.Ring
import ImageIntake.Number.Binary64

namespace ImageIntake.Number.Binary64

/-! ## Values -/

/-- The sign of a number as a factor. -/
def factor (negative : Bool) : ℚ := if negative then -1 else 1

/-- The value of a finite number. -/
def value? (x : Binary64) : Option ℚ :=
  match x.content with
  | .finite negative mantissa exponent => some (factor negative * (mantissa * 2 ^ exponent))
  | _ => none

theorem value?_of_content {x : Binary64} {negative : Bool} {mantissa : Nat} {exponent : Int}
    (h : x.content = .finite negative mantissa exponent) :
    x.value? = some (factor negative * (mantissa * 2 ^ exponent)) := by
  rw [value?, h]

/-- Whether a number has a value, and no other number has one nearer to a given. -/
def IsNearest (x : Binary64) (r : ℚ) : Prop :=
  ∃ v, x.value? = some v ∧ ∀ y w, value? y = some w → |v - r| ≤ |w - r|

/-! ## Bits -/

theorem toNat_ofMagnitude {magnitude : Nat} (h : magnitude < 2 ^ 63) (negative : Bool) :
    (ofMagnitude negative magnitude).bits.toNat = (if negative then 2 ^ 63 else 0) + magnitude := by
  have h_sign : (if negative then twoTo 63 else 0) = if negative then 2 ^ 63 else 0 := rfl
  rw [ofMagnitude, h_sign, UInt64.toNat_ofNat']
  refine Nat.mod_eq_of_lt ?_
  split <;> omega

/-- The fields of a pattern are read back beside either sign. -/
theorem content_ofMagnitude {magnitude : Nat} (h : magnitude < 2047 * 2 ^ 52) (negative : Bool) :
    content (ofMagnitude negative magnitude) =
      if magnitude / 2 ^ 52 = 0 then .finite negative magnitude (-1074)
      else .finite negative (2 ^ 52 + magnitude % 2 ^ 52) ((magnitude / 2 ^ 52 : Nat) - 1075) := by
  have h_bits := toNat_ofMagnitude (show magnitude < 2 ^ 63 by omega) negative
  have h_exponent : exponentField (ofMagnitude negative magnitude) = magnitude / 2 ^ 52 := by
    show _ / 2 ^ 52 % 2 ^ 11 = _
    rw [h_bits]
    split <;> omega
  have h_fraction : fractionField (ofMagnitude negative magnitude) = magnitude % 2 ^ 52 := by
    show _ % 2 ^ 52 = _
    rw [h_bits]
    split <;> omega
  have h_negative : Binary64.negative (ofMagnitude negative magnitude) = negative := by
    show (_ / 2 ^ 63 == 1) = _
    rw [h_bits]
    cases negative with
    | false => exact beq_eq_false_iff_ne.mpr (by rw [if_neg Bool.false_ne_true]; omega)
    | true => exact beq_iff_eq.mpr (by rw [if_pos rfl]; omega)
  rw [content, h_exponent, h_fraction, h_negative, if_neg (by omega)]
  split
  · congr 1
    omega
  · rfl

/-- A mantissa and an exponent that the bits of a number have room for; only at the least exponent
may the mantissa be short. -/
structure Fits (mantissa : Nat) (exponent : Int) : Prop where
  mantissa_lt : mantissa < 2 ^ 53
  least : -1074 ≤ exponent
  greatest : exponent ≤ 971
  normal : exponent = -1074 ∨ 2 ^ 52 ≤ mantissa

theorem Fits.content {mantissa : Nat} {exponent : Int} (h : Fits mantissa exponent)
    (negative : Bool) :
    content (ofMagnitude negative (packMagnitude mantissa exponent)) =
      .finite negative mantissa exponent := by
  obtain ⟨h_mantissa, h_least, h_greatest, h_normal⟩ := h
  unfold packMagnitude
  rw [show twoTo 52 = 2 ^ 52 from rfl]
  dsimp only
  split
  next h_small =>
    rw [content_ofMagnitude (by omega), if_pos (by omega), h_normal.resolve_right (by omega)]
  next h_large =>
    -- The first bit of the mantissa is not written: the field of the exponent stands for it.
    obtain ⟨field, h_field⟩ : ∃ field : Nat, (field : Int) = exponent + 1075 :=
      ⟨(exponent + 1075).toNat, by omega⟩
    have h_whole : (field * 2 ^ 52 + (mantissa - 2 ^ 52)) / 2 ^ 52 = field := by omega
    have h_rest : (field * 2 ^ 52 + (mantissa - 2 ^ 52)) % 2 ^ 52 = mantissa - 2 ^ 52 := by omega
    have h_mantissa : 2 ^ 52 + (mantissa - 2 ^ 52) = mantissa := by omega
    have h_exponent : (field : Int) - 1075 = exponent := by omega
    rw [← h_field, Int.toNat_natCast, if_neg (by omega), content_ofMagnitude (by omega), h_whole,
      h_rest, h_mantissa, h_exponent, if_neg (by omega)]

theorem bounds_of_content {x : Binary64} {negative : Bool} {mantissa : Nat} {exponent : Int}
    (h : x.content = .finite negative mantissa exponent) :
    mantissa < 2 ^ 53 ∧ -1074 ≤ exponent := by
  have h_fraction : x.fractionField < 2 ^ 52 := Nat.mod_lt _ (by decide)
  unfold content at h
  split at h
  · split at h <;> cases h
  · split at h
    · cases h
      omega
    · cases h
      rw [show twoTo 52 = 2 ^ 52 from rfl]
      omega

/-- A value is a whole number of fifty-three bits, counted in a power of two. -/
theorem exists_of_value? {x : Binary64} {v : ℚ} (h : x.value? = some v) :
    ∃ k e : ℤ, |k| < 2 ^ 53 ∧ -1074 ≤ e ∧ v = k * 2 ^ e := by
  cases h_content : x.content with
  | nan =>
    rw [value?, h_content] at h
    cases h
  | infinite negative =>
    rw [value?, h_content] at h
    cases h
  | finite negative mantissa exponent =>
    obtain ⟨h_mantissa, h_least⟩ := bounds_of_content h_content
    rw [value?_of_content h_content] at h
    obtain rfl := Option.some.inj h
    cases negative with
    | false =>
      refine ⟨mantissa, exponent, ?_, h_least, ?_⟩
      · rw [abs_of_nonneg (by omega)]
        omega
      · rw [factor, if_neg Bool.false_ne_true, one_mul, Int.cast_natCast]
    | true =>
      refine ⟨-mantissa, exponent, ?_, h_least, ?_⟩
      · rw [abs_neg, abs_of_nonneg (by omega)]
        omega
      · rw [factor, if_pos rfl, Int.cast_neg, Int.cast_natCast, neg_one_mul, neg_mul]

/-! ## Rounding -/

/-- The nearest whole number is at most a half away. -/
theorem abs_roundDiv_sub_le (num : Nat) {den : Nat} (h_den : 0 < den) :
    |(roundDiv num den : ℚ) - num / den| ≤ 1 / 2 := by
  have h_split := Nat.div_add_mod num den
  have h_rest := Nat.mod_lt num h_den
  have h_up : den * (num / den + 1) = den * (num / den) + den := Nat.mul_add_one _ _
  have h_near : 2 * num ≤ 2 * (den * roundDiv num den) + den ∧
      2 * (den * roundDiv num den) ≤ 2 * num + den := by
    unfold roundDiv
    dsimp only
    split
    · omega
    · split
      · omega
      · split <;> omega
  have h_pos : (0 : ℚ) < den := Nat.cast_pos.mpr h_den
  have h_low : 2 * (num : ℚ) ≤ 2 * (den * roundDiv num den) + den := by exact_mod_cast h_near.1
  have h_high : 2 * ((den : ℚ) * roundDiv num den) ≤ 2 * num + den := by exact_mod_cast h_near.2
  have h_num : (num : ℚ) = num / den * den := (div_mul_cancel₀ _ h_pos.ne').symm
  rw [abs_le]
  constructor
  · refine le_of_mul_le_mul_right ?_ h_pos
    linarith
  · refine le_of_mul_le_mul_right ?_ h_pos
    linarith

/-- What is at most a half away from a number is as near to it as any whole number. -/
theorem abs_sub_le_of_half {m k : ℤ} {y : ℚ} (h : |(m : ℚ) - y| ≤ 1 / 2) :
    |(m : ℚ) - y| ≤ |(k : ℚ) - y| := by
  by_cases h_same : k = m
  · rw [h_same]
  · have h_apart : (1 : ℚ) ≤ |(k : ℚ) - m| := by
      exact_mod_cast Int.one_le_abs (sub_ne_zero.mpr h_same)
    have h_triangle := abs_sub_le (k : ℚ) y m
    rw [abs_sub_comm y] at h_triangle
    linarith

/-! ## Steps -/

/-- A fraction counted in steps of `2 ^ exponent`, as a fraction again. -/
def scaled (num den : Nat) (exponent : Int) : Nat × Nat :=
  if 0 ≤ exponent then (num, den * twoTo exponent.toNat)
  else (num * twoTo (-exponent).toNat, den)

/-- The least exponent a fraction may be counted in: the quotient has 53 or 54 bits then. -/
def lowStep (num den : Nat) : Int := max (-1074) ((Nat.log2 num : Int) - Nat.log2 den - 53)

/-- The exponent that a fraction is counted in. -/
def step (num den : Nat) : Int :=
  let low := lowStep num den
  if (scaled num den low).1 / (scaled num den low).2 < 2 ^ 53 then low else low + 1

/-- The whole number of steps that a fraction is rounded to. -/
def steps (num den : Nat) : Nat :=
  roundDiv (scaled num den (step num den)).1 (scaled num den (step num den)).2

theorem ofFraction_eq {num den : Nat} (h_num : num ≠ 0) (h_den : den ≠ 0) (negative : Bool) :
    ofFraction negative num den =
      if steps num den = 2 ^ 53 then
        ofMagnitude negative (packMagnitude (2 ^ 52) (step num den + 1))
      else ofMagnitude negative (packMagnitude (steps num den) (step num den)) := by
  rw [ofFraction, if_neg (not_or.mpr ⟨h_num, h_den⟩)]
  rfl

section

variable {num den : Nat}

theorem scaled_snd_pos (h_den : 0 < den) (exponent : Int) : 0 < (scaled num den exponent).2 := by
  unfold scaled
  split
  · exact Nat.mul_pos h_den (twoTo_pos _)
  · exact h_den

/-- Counting in steps divides by the step. -/
theorem cast_scaled (exponent : Int) :
    ((scaled num den exponent).1 : ℚ) / (scaled num den exponent).2 =
      num / den / 2 ^ exponent := by
  unfold scaled
  split
  next h_up =>
    obtain ⟨n, rfl⟩ := Int.eq_ofNat_of_zero_le h_up
    rw [Int.toNat_natCast, zpow_natCast, div_div]
    norm_cast
  next h_down =>
    obtain ⟨n, rfl⟩ := Int.exists_eq_neg_ofNat (show exponent ≤ 0 by omega)
    rw [neg_neg, Int.toNat_natCast, zpow_neg, zpow_natCast, div_inv_eq_mul, div_mul_eq_mul_div]
    norm_cast

/-- A fraction is below the power of two that its numbers of bits tell. -/
theorem fraction_lt (num : Nat) (h_den : 0 < den) :
    (num : ℚ) / den < 2 ^ ((Nat.log2 num : Int) - Nat.log2 den + 1) := by
  have h_pos : (0 : ℚ) < den := Nat.cast_pos.mpr h_den
  have h_num : (num : ℚ) < 2 ^ (Nat.log2 num + 1) := by exact_mod_cast Nat.lt_log2_self
  have h_bits : (2 : ℚ) ^ Nat.log2 den ≤ den := by exact_mod_cast Nat.log2_self_le h_den.ne'
  rw [div_lt_iff₀ h_pos]
  calc (num : ℚ) < 2 ^ (Nat.log2 num + 1) := h_num
    _ = 2 ^ ((Nat.log2 num : Int) - Nat.log2 den + 1) * 2 ^ Nat.log2 den := by
      rw [← zpow_natCast, ← zpow_natCast, ← zpow_add₀ two_ne_zero]
      congr 1
      omega
    _ ≤ 2 ^ ((Nat.log2 num : Int) - Nat.log2 den + 1) * den :=
      mul_le_mul_of_nonneg_left h_bits (zpow_nonneg zero_le_two _)

theorem le_fraction (h_num : 0 < num) (h_den : 0 < den) :
    2 ^ ((Nat.log2 num : Int) - Nat.log2 den - 1) ≤ (num : ℚ) / den := by
  have h_pos : (0 : ℚ) < den := Nat.cast_pos.mpr h_den
  have h_bits : (2 : ℚ) ^ Nat.log2 num ≤ num := by exact_mod_cast Nat.log2_self_le h_num.ne'
  have h_den : (den : ℚ) ≤ 2 ^ (Nat.log2 den + 1) := by exact_mod_cast Nat.lt_log2_self.le
  rw [le_div_iff₀ h_pos]
  calc 2 ^ ((Nat.log2 num : Int) - Nat.log2 den - 1) * (den : ℚ)
      ≤ 2 ^ ((Nat.log2 num : Int) - Nat.log2 den - 1) * 2 ^ (Nat.log2 den + 1) :=
        mul_le_mul_of_nonneg_left h_den (zpow_nonneg zero_le_two _)
    _ = 2 ^ Nat.log2 num := by
      rw [← zpow_natCast, ← zpow_natCast, ← zpow_add₀ two_ne_zero]
      congr 1
      omega
    _ ≤ num := h_bits

theorem scaled_lt_iff (h_den : 0 < den) (exponent : Int) :
    (scaled num den exponent).1 / (scaled num den exponent).2 < 2 ^ 53 ↔
      (num : ℚ) / den < 2 ^ (exponent + 53) := by
  have h_pos : (0 : ℚ) < (scaled num den exponent).2 :=
    Nat.cast_pos.mpr (scaled_snd_pos h_den exponent)
  rw [Nat.div_lt_iff_lt_mul (scaled_snd_pos h_den exponent), zpow_add₀ two_ne_zero,
    ← div_lt_iff₀' (zpow_pos zero_lt_two exponent), ← cast_scaled, div_lt_iff₀ h_pos]
  norm_cast

/-- The fraction counts fewer than 2 ^ 53 steps, and not fewer than half as many where steps could
be smaller. -/
theorem step_bounds (h_num : 0 < num) (h_den : 0 < den) :
    -1074 ≤ step num den ∧ (num : ℚ) / den < 2 ^ (step num den + 53) ∧
      (step num den = -1074 ∨ 2 ^ (step num den + 52) ≤ (num : ℚ) / den) := by
  have h_two : (1 : ℚ) ≤ 2 := one_le_two
  have h_below := le_fraction h_num h_den
  have h_above := fraction_lt num h_den
  have h_low : lowStep num den = max (-1074) ((Nat.log2 num : Int) - Nat.log2 den - 53) := rfl
  unfold step
  dsimp only
  split
  next h_small =>
    rw [scaled_lt_iff h_den] at h_small
    refine ⟨by omega, h_small, ?_⟩
    by_cases h_least : lowStep num den = -1074
    · exact .inl h_least
    · -- The low step was chosen by the numbers of bits, which leave 53 at least.
      right
      refine le_trans (zpow_le_zpow_right₀ h_two ?_) h_below
      omega
  next h_large =>
    rw [scaled_lt_iff h_den, not_lt] at h_large
    refine ⟨by omega, ?_, .inr (le_trans (zpow_le_zpow_right₀ h_two ?_) h_large)⟩
    · refine lt_of_lt_of_le h_above (zpow_le_zpow_right₀ h_two ?_)
      omega
    · omega

/-! ## The number of a fraction -/

theorem abs_steps_sub_le (num : Nat) (h_den : 0 < den) :
    |((steps num den : ℤ) : ℚ) - num / den / 2 ^ step num den| ≤ 1 / 2 := by
  rw [← cast_scaled, Int.cast_natCast]
  exact abs_roundDiv_sub_le _ (scaled_snd_pos h_den _)

/-- No other whole number of steps is nearer. -/
theorem steps_nearest (num : Nat) (h_den : 0 < den) (k : ℤ) :
    |(steps num den : ℚ) * 2 ^ step num den - num / den| ≤
      |(k : ℚ) * 2 ^ step num den - num / den| := by
  have h_pos : (0 : ℚ) < 2 ^ step num den := zpow_pos zero_lt_two _
  have h_counted (m : ℚ) : |m * 2 ^ step num den - num / den| =
      |m - num / den / 2 ^ step num den| * 2 ^ step num den := by
    rw [← abs_of_pos h_pos, ← abs_mul, abs_of_pos h_pos, sub_mul, div_mul_cancel₀ _ h_pos.ne']
  have h_near := abs_sub_le_of_half (k := k) (abs_steps_sub_le num h_den)
  rw [Int.cast_natCast] at h_near
  rw [h_counted, h_counted]
  exact mul_le_mul_of_nonneg_right h_near h_pos.le

theorem steps_bounds (h_num : 0 < num) (h_den : 0 < den) :
    steps num den ≤ 2 ^ 53 ∧ (step num den = -1074 ∨ 2 ^ 52 ≤ steps num den) := by
  obtain ⟨-, h_above, h_below⟩ := step_bounds h_num h_den
  have h_pos : (0 : ℚ) < 2 ^ step num den := zpow_pos zero_lt_two _
  obtain ⟨h_low, h_high⟩ := abs_le.mp (abs_steps_sub_le num h_den)
  rw [Int.cast_natCast] at h_low h_high
  constructor
  · rw [add_comm, zpow_add₀ two_ne_zero, ← div_lt_iff₀ h_pos] at h_above
    have h_lt : (steps num den : ℚ) < (2 ^ 53 + 1 : ℕ) := by
      push_cast
      linarith
    exact Nat.le_of_lt_succ (Nat.cast_lt.mp h_lt)
  · refine h_below.imp_right fun h_large => ?_
    rw [add_comm, zpow_add₀ two_ne_zero, ← le_div_iff₀ h_pos] at h_large
    have h_lt : ((2 ^ 52 : ℕ) : ℚ) < (steps num den + 1 : ℕ) := by
      push_cast
      linarith
    exact Nat.le_of_lt_succ (Nat.cast_lt.mp h_lt)

/-- The value of a number that was read from a fraction. -/
theorem value?_ofFraction (h_num : 0 < num) (h_den : 0 < den)
    (h_size : (num : ℚ) / den < 2 ^ (1023 : ℤ)) (negative : Bool) :
    (ofFraction negative num den).value? =
      some (factor negative * (steps num den * 2 ^ step num den)) := by
  obtain ⟨h_least, -, h_below⟩ := step_bounds h_num h_den
  obtain ⟨h_steps, h_normal⟩ := steps_bounds h_num h_den
  have h_greatest : step num den + 1 ≤ 971 := by
    rcases h_below with h_tiny | h_large
    · omega
    · have h_exponents := (zpow_lt_zpow_iff_right₀ one_lt_two).mp (h_large.trans_lt h_size)
      omega
  rw [ofFraction_eq h_num.ne' h_den.ne']
  split
  next h_carry =>
    -- The count became a power of two, which is half as many steps of twice the size.
    have h_fits : Fits (2 ^ 52) (step num den + 1) :=
      ⟨by omega, by omega, h_greatest, .inr le_rfl⟩
    have h_same : ((2 ^ 52 : ℕ) : ℚ) * 2 ^ (step num den + 1) =
        ((2 ^ 53 : ℕ) : ℚ) * 2 ^ step num den := by
      rw [zpow_add_one₀ two_ne_zero]
      push_cast
      ring
    rw [value?_of_content (h_fits.content negative), h_carry, h_same]
  next h_room =>
    have h_fits : Fits (steps num den) (step num den) :=
      ⟨by omega, h_least, by omega, h_normal⟩
    exact value?_of_content (h_fits.content negative)

/-- No number has a value that is nearer than the rounded one. -/
theorem steps_nearest_value (h_num : 0 < num) (h_den : 0 < den) {k e : ℤ} (h_k : |k| < 2 ^ 53)
    (h_e : -1074 ≤ e) :
    |(steps num den : ℚ) * 2 ^ step num den - num / den| ≤ |(k : ℚ) * 2 ^ e - num / den| := by
  obtain ⟨h_least, -, h_below⟩ := step_bounds h_num h_den
  rcases le_or_gt (step num den) e with h_coarse | h_fine
  · -- The value is a whole number of steps, too.
    obtain ⟨n, h_n⟩ := Int.eq_ofNat_of_zero_le (sub_nonneg.mpr h_coarse)
    have h_value : (k : ℚ) * 2 ^ e = ((k * 2 ^ n : ℤ) : ℚ) * 2 ^ step num den := by
      rw [show e = n + step num den by omega, zpow_add₀ two_ne_zero, zpow_natCast]
      push_cast
      ring
    rw [h_value]
    exact steps_nearest num h_den _
  · -- The value is below the least whole number of steps that still has all its digits.
    have h_large : (2 : ℚ) ^ (step num den + 52) ≤ num / den := h_below.resolve_left (by omega)
    have h_k' : (k : ℚ) ≤ 2 ^ 53 := by exact_mod_cast (le_abs_self k).trans h_k.le
    have h_value : (k : ℚ) * 2 ^ e ≤ 2 ^ (step num den + 52) := by
      calc (k : ℚ) * 2 ^ e ≤ 2 ^ 53 * 2 ^ e :=
            mul_le_mul_of_nonneg_right h_k' (zpow_nonneg zero_le_two e)
        _ = 2 ^ (e + 53) := by rw [add_comm, zpow_add₀ two_ne_zero]; rfl
        _ ≤ 2 ^ (step num den + 52) := zpow_le_zpow_right₀ one_le_two (by omega)
    have h_whole : ((2 ^ 52 : ℤ) : ℚ) * 2 ^ step num den = 2 ^ (step num den + 52) := by
      rw [add_comm, zpow_add₀ two_ne_zero]
      push_cast
      rfl
    have h_near := steps_nearest num h_den (2 ^ 52)
    rw [h_whole, abs_of_nonpos (sub_nonpos.mpr h_large)] at h_near
    rw [abs_of_nonpos (a := (k : ℚ) * 2 ^ e - num / den) (by linarith)]
    linarith

end

theorem value?_zero (negative : Bool) : (zero negative).value? = some 0 := by
  have h_fits : Fits 0 (-1074) := ⟨by omega, by omega, by omega, .inl rfl⟩
  have h_value := value?_of_content (h_fits.content negative)
  rw [Nat.cast_zero, zero_mul, mul_zero] at h_value
  exact h_value

/-- The number read from a fraction is the nearest there is. -/
theorem isNearest_ofFraction (num : Nat) {den : Nat} (h_den : 0 < den)
    (h_size : (num : ℚ) / den < 2 ^ (1023 : ℤ)) (negative : Bool) :
    IsNearest (ofFraction negative num den) (factor negative * (num / den)) := by
  rcases Nat.eq_zero_or_pos num with rfl | h_num
  · refine ⟨0, ?_, fun y w _ => ?_⟩
    · rw [ofFraction, if_pos (.inl rfl)]
      exact value?_zero negative
    · rw [Nat.cast_zero, zero_div, mul_zero, sub_zero, abs_zero]
      exact abs_nonneg _
  · refine ⟨_, value?_ofFraction h_num h_den h_size negative, fun y w h_w => ?_⟩
    obtain ⟨k, e, h_k, h_e, rfl⟩ := exists_of_value? h_w
    cases negative with
    | false =>
      rw [factor, if_neg Bool.false_ne_true, one_mul, one_mul]
      exact steps_nearest_value h_num h_den h_k h_e
    | true =>
      have h_mirrored := steps_nearest_value h_num h_den (k := -k) (by rwa [abs_neg]) h_e
      rw [factor, if_pos rfl, neg_one_mul, neg_one_mul, ← neg_sub', abs_neg, sub_neg_eq_add]
      rwa [Int.cast_neg, neg_mul, ← neg_add', abs_neg] at h_mirrored

/-- What is nearest to a number between two values is between them, too. -/
theorem IsNearest.between {x : Binary64} {r : ℚ} (h : IsNearest x r) {low high : Binary64}
    {a b : ℚ} (h_low : low.value? = some a) (h_high : high.value? = some b) (h_a : a ≤ r)
    (h_b : r ≤ b) : ∃ v, x.value? = some v ∧ a ≤ v ∧ v ≤ b := by
  obtain ⟨v, h_v, h_nearest⟩ := h
  have h_from_low := h_nearest low a h_low
  have h_from_high := h_nearest high b h_high
  rw [abs_of_nonpos (sub_nonpos.mpr h_a)] at h_from_low
  rw [abs_of_nonneg (sub_nonneg.mpr h_b)] at h_from_high
  refine ⟨v, h_v, ?_, ?_⟩
  · have h_down := neg_abs_le (v - r)
    linarith
  · have h_up := le_abs_self (v - r)
    linarith

end ImageIntake.Number.Binary64
