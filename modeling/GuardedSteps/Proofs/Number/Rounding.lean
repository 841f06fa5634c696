import GuardedSteps.Proofs.Number.Difference

/-!
Rounding to the nearest double. A mantissa with its residual bits tells where a number lies between two
whole numbers, and shifting keeps it true. So a number is rounded to the double around which it lies,
half a step of the mantissa at most from it.
-/

namespace GuardedSteps

namespace Number

open Float.Model Float.Model.UnpackedFloat

/-! ## Intervals -/

def Between (closed : Prop) (low high number : ℚ) : Prop :=
  low ≤ number ∧ number ≤ high ∧ (closed ∨ low < number ∧ number < high)

theorem Between.mul {closed : Prop} {low high number factor : ℚ} (between : Between closed low high number)
    (positive : 0 < factor) : Between closed (low * factor) (high * factor) (number * factor) := by
  rcases between with ⟨above, below, inside⟩
  refine ⟨mul_le_mul_of_nonneg_right above positive.le, mul_le_mul_of_nonneg_right below positive.le,
    inside.imp_right fun strict => ?_⟩
  exact ⟨mul_lt_mul_of_pos_right strict.1 positive, mul_lt_mul_of_pos_right strict.2 positive⟩

/-- A whole number is one of the nearest to a number, and even if there are two of them. -/
def Nearest (number : ℚ) (whole : Nat) : Prop :=
  Between (whole % 2 = 0) (whole - 1 / 2) (whole + 1 / 2) number

/-! ## Residual bits -/

/-- A number lies where a mantissa and its residual bits say, measured in units of the mantissa. -/
def Locates : ExtendedMantissa → ℚ → Prop
  | ⟨mantissa, false, false⟩, number => number = mantissa
  | ⟨mantissa, false, true⟩, number => mantissa < number ∧ number < mantissa + 1 / 2
  | ⟨mantissa, true, false⟩, number => number = mantissa + 1 / 2
  | ⟨mantissa, true, true⟩, number => mantissa + 1 / 2 < number ∧ number < mantissa + 1

theorem Locates.bounds {extended : ExtendedMantissa} {number : ℚ} (locates : Locates extended number) :
    extended.mantissa ≤ number ∧ number < extended.mantissa + 1 := by
  rcases extended with ⟨mantissa, roundBit, stickyBit⟩
  cases roundBit <;> cases stickyBit <;> simp only [Locates] at locates <;>
    constructor <;> linarith

theorem Locates.shiftRightOne {extended : ExtendedMantissa} {number : ℚ}
    (locates : Locates extended number) : Locates extended.shiftRightOne (number / 2) := by
  rcases extended with ⟨mantissa, roundBit, stickyBit⟩
  rcases Nat.even_or_odd' mantissa with ⟨half, rfl | rfl⟩
  · have shifted : 2 * half / 2 = half := by omega
    cases roundBit <;> cases stickyBit <;>
      simp only [Locates, ExtendedMantissa.shiftRightOne, shifted, Nat.mul_mod_right, bne_self_eq_false,
        Bool.or_false, Bool.or_true, Nat.cast_mul, Nat.cast_ofNat] at locates ⊢ <;>
      (try constructor) <;> linarith
  · have shifted : (2 * half + 1) / 2 = half := by omega
    have odd : ((2 * half + 1) % 2 != 0) = true := by
      rw [bne_iff_ne]
      omega
    cases roundBit <;> cases stickyBit <;>
      simp only [Locates, ExtendedMantissa.shiftRightOne, shifted, odd, Bool.or_false, Bool.or_true,
        Nat.cast_add, Nat.cast_mul, Nat.cast_ofNat, Nat.cast_one] at locates ⊢ <;>
      (try constructor) <;> linarith

theorem Locates.shiftRight {extended : ExtendedMantissa} {number : ℚ} (locates : Locates extended number)
    (amount : Nat) : Locates (extended >>> amount) (number / 2 ^ amount) := by
  induction amount with
  | zero => rwa [pow_zero, div_one]
  | succ amount induction =>
      rw [pow_succ, ← div_div]
      exact induction.shiftRightOne

theorem Locates.roundedMantissa_eq {extended : ExtendedMantissa} {number : ℚ}
    (locates : Locates extended number) {whole : Nat} (nearest : Nearest number whole) :
    extended.roundedMantissa = whole := by
  rcases extended with ⟨mantissa, roundBit, stickyBit⟩
  rcases nearest with ⟨above, below, inside⟩
  have same {rounded : Nat} (low : (whole : ℚ) < rounded + 1) (high : (rounded : ℚ) < whole + 1) :
      rounded = whole := by
    norm_cast at low high
    omega
  cases roundBit <;> cases stickyBit <;>
    simp only [Locates, ExtendedMantissa.roundedMantissa, ExtendedMantissa.accuracy,
      Accuracy.roundToNearestEven] at locates ⊢
  · exact same (by linarith) (by linarith)
  · exact same (by linarith) (by linarith)
  · -- Halfway between two whole numbers the even one is taken.
    have low : (whole : ℚ) ≤ mantissa + 1 := by linarith
    have high : (mantissa : ℚ) ≤ whole := by linarith
    norm_cast at low high
    have even : whole % 2 = 0 := by
      rcases inside with even | ⟨strictly, strict⟩
      · exact even
      · have less : (whole : ℚ) < mantissa + 1 := by linarith
        have more : (mantissa : ℚ) < whole := by linarith
        norm_cast at less more
        omega
    omega
  · exact same (by push_cast; linarith) (by push_cast; linarith)

/-! ## The numbers around a double -/

/-- How far the numbers around a double reach below it, in quarters of its last place. The next double
below is only half as far away when the mantissa is the least one of a greater exponent. -/
def quartersBelow (mantissa : Nat) (exponent : Int) : Nat :=
  if mantissa = Nat.pow 2 52 ∧ -1074 < exponent then 1 else 2

theorem quartersBelow_bounds (mantissa : Nat) (exponent : Int) :
    (1 : ℚ) ≤ quartersBelow mantissa exponent ∧ (quartersBelow mantissa exponent : ℚ) ≤ 2 := by
  unfold quartersBelow
  split <;> norm_num

/-- A number lies around a double, so that it is rounded to it. -/
def Around (mantissa : Nat) (exponent : Int) (number : ℚ) : Prop :=
  Between (mantissa % 2 = 0) ((mantissa - quartersBelow mantissa exponent / 4) * 2 ^ exponent)
    ((mantissa + 1 / 2) * 2 ^ exponent) number

theorem around_self (mantissa : Nat) (exponent : Int) :
    Around mantissa exponent (mantissa * 2 ^ exponent) := by
  have positive : (0 : ℚ) < 2 ^ exponent := zpow_pos two_pos exponent
  have reach := (quartersBelow_bounds mantissa exponent).1
  have low : (mantissa - quartersBelow mantissa exponent / 4) * (2 : ℚ) ^ exponent <
      mantissa * 2 ^ exponent := mul_lt_mul_of_pos_right (by linarith) positive
  have high : mantissa * (2 : ℚ) ^ exponent < (mantissa + 1 / 2) * 2 ^ exponent :=
    mul_lt_mul_of_pos_right (by linarith) positive
  exact ⟨low.le, high.le, .inr ⟨low, high⟩⟩

/-- Among the doubles of the same exponent, the number is nearest to the one it lies around. -/
theorem Around.nearest {mantissa : Nat} {exponent : Int} {number : ℚ}
    (around : Around mantissa exponent number) : Nearest (number / 2 ^ exponent) mantissa := by
  have unit : (0 : ℚ) < 2 ^ exponent := zpow_pos two_pos exponent
  rcases around.mul (inv_pos.mpr unit) with ⟨above, below, inside⟩
  rw [mul_inv_cancel_right₀ unit.ne', ← div_eq_mul_inv] at above below inside
  have reach := (quartersBelow_bounds mantissa exponent).2
  rw [mul_inv_cancel_right₀ unit.ne'] at inside
  refine ⟨by linarith, below, inside.imp_right fun strict => ⟨by linarith, strict.2⟩⟩

/-- The exponent of the doubles among which a number is rounded: with this exponent it has as many bits
before the point as a mantissa, or fewer if there is no lesser exponent. -/
structure HasExponent (number : ℚ) (exponent : Int) : Prop where
  least : -1074 ≤ exponent
  short : number < 2 ^ (exponent + 53)
  full : exponent = -1074 ∨ 2 ^ (exponent + 52) ≤ number

def Fits (mantissa : Nat) (exponent : Int) : Prop :=
  mantissa < 2 ^ 53 ∧ -1074 ≤ exponent ∧ (exponent = -1074 ∨ 2 ^ 52 ≤ mantissa)

section

variable {mantissa : Nat} {exponent own : Int} {number : ℚ} (has : HasExponent number own)
  (fits : Fits mantissa exponent) (around : Around mantissa exponent number)

include has fits around

theorem HasExponent.le : own ≤ exponent := by
  have unit : (0 : ℚ) < 2 ^ exponent := zpow_pos two_pos exponent
  by_contra greater
  have high : (2 : ℚ) ^ (own + 52) ≤ number := has.full.resolve_left (by have := fits.2.1; omega)
  have step : (2 : ℚ) ^ (exponent + 53) ≤ 2 ^ (own + 52) := zpow_le_zpow_right₀ one_le_two (by omega)
  rw [zpow_add₀ two_ne_zero, zpow_ofNat] at step
  have short : (mantissa : ℚ) + 1 ≤ 2 ^ 53 := by exact_mod_cast fits.1
  have below : ((mantissa : ℚ) + 1 / 2) * 2 ^ exponent < 2 ^ 53 * 2 ^ exponent :=
    mul_lt_mul_of_pos_right (by linarith) unit
  linarith [around.2.1]

theorem HasExponent.nearest_next (less : own < exponent) :
    own + 1 = exponent ∧ mantissa = 2 ^ 52 ∧ Nearest (number / 2 ^ own) (2 ^ 53) := by
  have unit : (0 : ℚ) < 2 ^ exponent := zpow_pos two_pos exponent
  have normal : -1074 < exponent := lt_of_le_of_lt has.least less
  have full : 2 ^ 52 ≤ mantissa := fits.2.2.resolve_left normal.ne'
  have bound := has.short.trans_le (zpow_le_zpow_right₀ one_le_two (by omega : own + 53 ≤ exponent + 52))
  rw [zpow_add₀ two_ne_zero, zpow_ofNat, mul_comm] at bound
  have reach := (quartersBelow_bounds mantissa exponent).2
  have small : (mantissa - quartersBelow mantissa exponent / 4 : ℚ) < 2 ^ 52 :=
    lt_of_mul_lt_mul_right (around.1.trans_lt bound) unit.le
  have least : mantissa = 2 ^ 52 := by
    have few : (mantissa : ℚ) < 2 ^ 52 + 1 := by linarith
    norm_cast at few
    omega
  have quarter : quartersBelow mantissa exponent = 1 := if_pos ⟨least, normal⟩
  have low := around.1
  rw [quarter, least] at low
  push_cast at low
  have next : own + 1 = exponent := by
    by_contra apart
    have further := has.short.trans_le (zpow_le_zpow_right₀ one_le_two (by omega : own + 53 ≤ exponent + 51))
    rw [zpow_add₀ two_ne_zero, zpow_ofNat] at further
    nlinarith
  have double : (2 : ℚ) ^ exponent = 2 * 2 ^ own := by
    rw [← next, zpow_add_one₀ two_ne_zero, mul_comm]
  have own' : (0 : ℚ) < 2 ^ own := zpow_pos two_pos own
  refine ⟨next, least, ?_, ?_, .inl (by decide)⟩
  · rw [le_div_iff₀ own']
    push_cast
    rw [double] at low
    linarith
  · rw [div_le_iff₀ own']
    push_cast
    have short := has.short
    rw [zpow_add₀ two_ne_zero, zpow_ofNat] at short
    linarith

end

/-! ## Rounding a mantissa -/

theorem hasExponent_targetExponent {mantissa : Nat} {exponent : Int} {accuracy : Accuracy} {number : ℚ}
    (locates : Locates (.ofMantissaAndAccuracy mantissa accuracy) number)
    (low : exponent ≤ Format.binary64.targetExponent (totalExponent mantissa exponent)) :
    HasExponent (number * 2 ^ exponent)
      (Format.binary64.targetExponent (totalExponent mantissa exponent)) := by
  have unit : (0 : ℚ) < 2 ^ exponent := zpow_pos two_pos exponent
  have bounds := locates.bounds
  rw [mantissa_ofMantissaAndAccuracy] at bounds
  rw [targetExponent_eq] at low ⊢
  have above : (mantissa + 1 : ℚ) ≤ 2 ^ (mantissa.log2 + 1) := by
    exact_mod_cast (Nat.lt_log2_self : mantissa < 2 ^ (mantissa.log2 + 1))
  have short : number * 2 ^ exponent < 2 ^ totalExponent mantissa exponent := by
    rw [totalExponent, zpow_add₀ two_ne_zero]
    have less : number < 2 ^ ((mantissa.log2 : Int) + 1) := by
      exact_mod_cast bounds.2.trans_le above
    exact mul_lt_mul_of_pos_right less unit
  refine ⟨le_max_right _ _, short.trans_le (zpow_le_zpow_right₀ one_le_two (by omega)), ?_⟩
  by_cases empty : mantissa = 0
  · left
    subst empty
    have zero : Nat.log2 0 = 0 := by decide
    rw [totalExponent, zero] at low ⊢
    omega
  · by_cases least : max (totalExponent mantissa exponent - 53) (-1074) = -1074
    · exact .inl least
    · right
      have some : (2 : ℚ) ^ (mantissa.log2 : Int) ≤ mantissa := by
        exact_mod_cast Nat.log2_self_le empty
      have exact : max (totalExponent mantissa exponent - 53) (-1074) + 52 = mantissa.log2 + exponent := by
        rw [totalExponent] at least ⊢
        omega
      rw [exact, zpow_add₀ two_ne_zero]
      exact mul_le_mul_of_nonneg_right (some.trans bounds.1) unit.le

theorem shiftToTargetExponent_of_fits {mantissa : Nat} {exponent : Int} (fits : Fits mantissa exponent) :
    let shifted := shiftToTargetExponent Format.binary64 mantissa exponent .exact
    shifted.1.mantissa = mantissa ∧ shifted.2 = exponent := by
  have few : mantissa.log2 ≤ 52 := by
    by_cases empty : mantissa = 0
    · simp [empty]
    · have bits := (Nat.log2_lt empty).mpr fits.1
      omega
  have amount : (Format.binary64.targetExponent (totalExponent mantissa exponent) - exponent).toNat = 0 := by
    rw [targetExponent_eq, totalExponent]
    have least := fits.2.1
    omega
  simp only [shiftToTargetExponent, shiftToExponent, amount, mantissa_shiftRight,
    mantissa_ofMantissaAndAccuracy]
  omega

theorem shiftToTargetExponent_next {exponent : Int} (least : -1074 ≤ exponent) :
    let shifted := shiftToTargetExponent Format.binary64 (2 ^ 53) exponent .exact
    shifted.1.mantissa = 2 ^ 52 ∧ shifted.2 = exponent + 1 := by
  have bits : Nat.log2 (2 ^ 53) = 53 := by decide
  have amount : (Format.binary64.targetExponent (totalExponent (2 ^ 53) exponent) - exponent).toNat = 1 := by
    rw [targetExponent_eq, totalExponent, bits]
    omega
  simp only [shiftToTargetExponent, shiftToExponent, amount, mantissa_shiftRight,
    mantissa_ofMantissaAndAccuracy]
  omega

theorem roundWithAccuracy_of_shifts {sign : Sign} {mantissa rounded : Nat}
    {exponent own reached : Int} {accuracy : Accuracy} {extended : ExtendedMantissa}
    (first : shiftToTargetExponent Format.binary64 mantissa exponent accuracy = (extended, own))
    (second : let shifted := shiftToTargetExponent Format.binary64 extended.roundedMantissa own .exact
      shifted.1.mantissa = rounded ∧ shifted.2 = reached) (some : 0 < rounded) :
    roundWithAccuracy Format.binary64 sign mantissa exponent accuracy =
      .finite sign rounded reached some := by
  rcases second with ⟨rfl, rfl⟩
  simp only [roundWithAccuracy, first]
  exact dif_neg some.ne'

/-- A number is rounded to the double that it lies around. -/
theorem roundWithAccuracy_eq {sign : Sign} {mantissa rounded : Nat} {exponent reached : Int}
    {accuracy : Accuracy} {number : ℚ}
    (locates : Locates (.ofMantissaAndAccuracy mantissa accuracy) number)
    (low : exponent ≤ Format.binary64.targetExponent (totalExponent mantissa exponent))
    (some : 0 < rounded) (fits : Fits rounded reached)
    (around : Around rounded reached (number * 2 ^ exponent)) :
    roundWithAccuracy Format.binary64 sign mantissa exponent accuracy =
      .finite sign rounded reached some := by
  have has := hasExponent_targetExponent locates low
  generalize target : Format.binary64.targetExponent (totalExponent mantissa exponent) = own at low has
  have further : exponent + (own - exponent).toNat = own := by omega
  have first : shiftToTargetExponent Format.binary64 mantissa exponent accuracy =
      (ExtendedMantissa.ofMantissaAndAccuracy mantissa accuracy >>> (own - exponent).toNat, own) := by
    simp only [shiftToTargetExponent, shiftToExponent, target, further]
  have shifted := locates.shiftRight (own - exponent).toNat
  have units : number / 2 ^ (own - exponent).toNat = number * 2 ^ exponent / 2 ^ own := by
    have same : (2 : ℚ) ^ own = 2 ^ exponent * 2 ^ (own - exponent).toNat := by
      rw [← zpow_natCast, ← zpow_add₀ two_ne_zero, further]
    have unit : (2 : ℚ) ^ exponent ≠ 0 := (zpow_pos two_pos exponent).ne'
    rw [same, mul_comm number, mul_div_mul_left _ _ unit]
  rw [units] at shifted
  refine roundWithAccuracy_of_shifts first ?_ some
  rcases (has.le fits around).eq_or_lt with rfl | less
  · rw [shifted.roundedMantissa_eq around.nearest]
    exact shiftToTargetExponent_of_fits fits
  · rcases has.nearest_next fits around less with ⟨rfl, rfl, nearest⟩
    rw [shifted.roundedMantissa_eq nearest]
    exact shiftToTargetExponent_next has.least

end Number

end GuardedSteps
