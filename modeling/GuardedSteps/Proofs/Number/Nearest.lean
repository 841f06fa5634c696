import GuardedSteps.Proofs.Number.Rounding

/-!
Decimals that are read. A product, a quotient and a whole number are rounded to the double that they lie
around, and so is a decimal, whether it is read by one operation on doubles or digit for digit.
-/

namespace GuardedSteps

namespace Number

open Float.Model Float.Model.UnpackedFloat

/-! ## Packing -/

theorem ofBitVec_toBitVec (sign : Sign) : Sign.ofBitVec sign.toBitVec = sign := by
  cases sign <;> rfl

theorem toNat_one_append (rest : BitVec 52) : (1#1 ++ rest).toNat = 2 ^ 52 + rest.toNat := by
  rw [BitVec.toNat_append, ← Nat.shiftLeft_add_eq_or_of_lt rest.isLt]
  rfl

theorem unpack_packComponents_normal {sign : Sign} {field : BitVec 11} {rest : BitVec 52}
    (unfilled : field ≠ -1#11) (nonempty : field ≠ 0#11) {mantissa : Nat} {exponent : Int}
    (some : 0 < mantissa) (whole : mantissa = 2 ^ 52 + rest.toNat) (biased : field.toNat = exponent + 1075) :
    UnpackedFloat.unpack Format.binary64 (packComponents Format.binary64 sign field rest) =
      .finite sign mantissa exponent some := by
  have bias : (Format.binary64.exponentBias : Int) = 1023 := by decide
  have bits : (1#1 ++ rest).toNat = mantissa := (toNat_one_append rest).trans whole.symm
  simp only [UnpackedFloat.unpack, unpackExponent_packComponents, unpackMantissa_packComponents,
    unpackSign_packComponents, unfilled, nonempty, if_false, bias, bits, ofBitVec_toBitVec,
    UnpackedFloat.finite.injEq, true_and]
  omega

theorem unpack_packComponents_subnormal {sign : Sign} {rest : BitVec 52} {mantissa : Nat}
    (some : 0 < mantissa) (whole : mantissa = rest.toNat) :
    UnpackedFloat.unpack Format.binary64 (packComponents Format.binary64 sign 0#11 rest) =
      .finite sign mantissa (-1074) some := by
  have bias : (Format.binary64.exponentBias : Int) = 1023 := by decide
  have unfilled : (0#11 : BitVec 11) ≠ -1#11 := by decide
  have nonzero : rest ≠ 0#52 := by
    rintro rfl
    exact some.ne' whole
  simp only [UnpackedFloat.unpack, unpackExponent_packComponents, unpackMantissa_packComponents,
    unpackSign_packComponents, unfilled, if_false, if_true, nonzero, dif_neg, not_false_eq_true, bias,
    ofBitVec_toBitVec, ← whole, UnpackedFloat.finite.injEq, true_and]
  rfl

theorem unpack_pack_of_fits {sign : Sign} {mantissa : Nat} {exponent : Int} (some : 0 < mantissa)
    (fits : Fits mantissa exponent) (high : exponent ≤ 971) :
    (Float.Model.pack (.finite sign mantissa exponent some)).unpack =
      .finite sign mantissa exponent some := by
  rcases fits with ⟨short, least, full⟩
  have bias : (Format.binary64.exponentBias : Int) = 1023 := by decide
  have bits : Format.binary64.mantissaBits = 53 := rfl
  change UnpackedFloat.unpack Format.binary64 (UnpackedFloat.pack Format.binary64
    (.finite sign mantissa exponent some)) = _
  have finite : ¬ 2 ^ 11 ≤ (exponent + 1023 + 52).toNat + 1 := by omega
  simp only [UnpackedFloat.pack, bias, bits, Nat.cast_ofNat, finite, if_false]
  by_cases normal : 2 ^ 52 ≤ mantissa
  · have log := log2_of_full normal short
    have field : (BitVec.ofNat 11 (exponent + 1023 + 52).toNat).toNat = (exponent + 1075).toNat := by
      rw [BitVec.toNat_ofNat, Nat.mod_eq_of_lt (by omega)]
      omega
    have rest : (BitVec.ofNat 52 mantissa).toNat = mantissa - 2 ^ 52 := by
      rw [BitVec.toNat_ofNat]
      omega
    rw [log, if_pos rfl]
    refine unpack_packComponents_normal ?_ ?_ some (by omega) (by omega)
    · intro filled
      have infinite : (-1#11 : BitVec 11).toNat = 2047 := by decide
      rw [filled, infinite] at field
      omega
    · intro empty
      rw [empty] at field
      change 0 = _ at field
      omega
  · have few := (Nat.log2_lt some.ne').mpr (not_le.mp normal)
    have lowest : exponent = -1074 := full.resolve_right normal
    subst lowest
    rw [if_neg (by omega)]
    apply unpack_packComponents_subnormal some
    rw [BitVec.toNat_ofNat, Nat.mod_eq_of_lt (not_le.mp normal)]

/-! ## Products and quotients -/

/-- The accuracy of a fraction tells where a number lies behind its whole part. -/
theorem locates_accuracyOfFraction (whole : Nat) {part divisor : Nat} (less : part < divisor) :
    Locates (.ofMantissaAndAccuracy whole (accuracyOfFraction part divisor)) (whole + part / divisor) := by
  have scale : (0 : ℚ) < divisor := by exact_mod_cast Nat.zero_lt_of_lt less
  unfold accuracyOfFraction
  split
  · next none =>
    subst none
    simp [ExtendedMantissa.ofMantissaAndAccuracy, Locates]
  · next more =>
    have positive : (0 : ℚ) < part / divisor := div_pos (by exact_mod_cast Nat.pos_of_ne_zero more) scale
    have proper : (part / divisor : ℚ) < 1 := (div_lt_one scale).mpr (by exact_mod_cast less)
    rcases lt_trichotomy (2 * part) divisor with below | half | above
    · have order : compare (2 * part) divisor = .lt := Nat.compare_eq_lt.mpr below
      have fraction : (part / divisor : ℚ) < 1 / 2 := by
        rw [div_lt_div_iff₀ scale two_pos]
        exact_mod_cast (by omega : part * 2 < 1 * divisor)
      rw [order]
      exact ⟨by linarith, by linarith⟩
    · have order : compare (2 * part) divisor = .eq := Nat.compare_eq_eq.mpr half
      have fraction : (part / divisor : ℚ) = 1 / 2 := by
        rw [div_eq_div_iff scale.ne' two_ne_zero]
        exact_mod_cast (by omega : part * 2 = 1 * divisor)
      rw [order]
      exact congrArg ((whole : ℚ) + ·) fraction
    · have order : compare (2 * part) divisor = .gt := Nat.compare_eq_gt.mpr above
      have fraction : (1 / 2 : ℚ) < part / divisor := by
        rw [div_lt_div_iff₀ two_pos scale]
        exact_mod_cast (by omega : 1 * divisor < part * 2)
      rw [order]
      exact ⟨by linarith, by linarith⟩

theorem locates_quotient (dividend : Nat) {divisor : Nat} (nonzero : 0 < divisor) :
    Locates (.ofMantissaAndAccuracy (dividend / divisor) (accuracyOfFraction (dividend % divisor) divisor))
      (dividend / divisor) := by
  have scale : (divisor : ℚ) ≠ 0 := by exact_mod_cast nonzero.ne'
  have split : (dividend : ℚ) = divisor * (dividend / divisor : Nat) + (dividend % divisor : Nat) := by
    exact_mod_cast (Nat.div_add_mod dividend divisor).symm
  have value : (dividend / divisor : ℚ) =
      (dividend / divisor : Nat) + (dividend % divisor : Nat) / divisor := by
    rw [div_eq_iff scale, add_mul, div_mul_cancel₀ _ scale, mul_comm]
    exact split
  rw [value]
  exact locates_accuracyOfFraction _ (Nat.mod_lt dividend nonzero)

theorem quotient_exponent_le {mantissa mantissa' : Nat} (positive : 0 < mantissa)
    (positive' : 0 < mantissa') {exponent exponent' own : Int} {shift : Nat}
    (target : own = min (exponent - exponent')
      (max (totalExponent mantissa exponent - totalExponent mantissa' exponent' - 53) (-1074)))
    (amount : shift = (exponent - exponent' - own).toNat) :
    own ≤ Format.binary64.targetExponent (totalExponent (mantissa <<< shift / mantissa') own) := by
  rw [targetExponent_eq]
  by_cases least : own ≤ -1074
  · omega
  · rw [totalExponent, totalExponent] at target
    have enough : mantissa'.log2 + 1 + 52 ≤ mantissa.log2 + shift := by omega
    have few : mantissa' < 2 ^ (mantissa'.log2 + 1) := Nat.lt_log2_self
    have many : 2 ^ 52 ≤ mantissa <<< shift / mantissa' := by
      rw [Nat.le_div_iff_mul_le positive', Nat.shiftLeft_eq]
      calc 2 ^ 52 * mantissa' ≤ 2 ^ 52 * 2 ^ (mantissa'.log2 + 1) := Nat.mul_le_mul_left _ few.le
        _ = 2 ^ (mantissa'.log2 + 1 + 52) := by rw [← Nat.pow_add, Nat.add_comm]
        _ ≤ 2 ^ (mantissa.log2 + shift) := Nat.pow_le_pow_right two_pos enough
        _ = 2 ^ mantissa.log2 * 2 ^ shift := Nat.pow_add ..
        _ ≤ mantissa * 2 ^ shift := Nat.mul_le_mul_right _ (Nat.log2_self_le positive.ne')
    have bits := (Nat.le_log2 (by omega)).mpr many
    rw [totalExponent]
    omega

section

variable {sign other : Sign} {mantissa mantissa' rounded : Nat} {exponent exponent' reached : Int}
  (positive : 0 < mantissa) (positive' : 0 < mantissa') (some : 0 < rounded)
  (fits : Fits rounded reached)

include fits

/-- A product of enough bits is rounded to the double that it lies around. -/
theorem mul_eq_of_around (many : 2 ^ 52 ≤ mantissa * mantissa')
    (around : Around rounded reached (mantissa * 2 ^ exponent * (mantissa' * 2 ^ exponent'))) :
    UnpackedFloat.mul Format.binary64 (.finite sign mantissa exponent positive)
      (.finite other mantissa' exponent' positive') = .finite (sign * other) rounded reached some := by
  have locates : Locates (.ofMantissaAndAccuracy (mantissa * mantissa') .exact)
      ((mantissa * mantissa' : Nat) : ℚ) := rfl
  have value : ((mantissa * mantissa' : Nat) : ℚ) * 2 ^ (exponent + exponent') =
      mantissa * 2 ^ exponent * (mantissa' * 2 ^ exponent') := by
    rw [zpow_add₀ two_ne_zero]
    push_cast
    ring
  have bits := (Nat.le_log2 (by omega)).mpr many
  refine roundWithAccuracy_eq locates ?_ some fits (value ▸ around)
  rw [targetExponent_eq, totalExponent]
  omega

theorem div_eq_of_around
    (around : Around rounded reached (mantissa * 2 ^ exponent / (mantissa' * 2 ^ exponent'))) :
    UnpackedFloat.div Format.binary64 (.finite sign mantissa exponent positive)
      (.finite other mantissa' exponent' positive') = .finite (sign / other) rounded reached some := by
  generalize target : min (exponent - exponent') (max (totalExponent mantissa exponent -
    totalExponent mantissa' exponent' - 53) (-1074)) = own
  generalize amount : (exponent - exponent' - own).toNat = shift
  have low := quotient_exponent_le positive positive' target.symm amount.symm
  have core : divCore Format.binary64 mantissa exponent mantissa' exponent' =
      (mantissa <<< shift / mantissa', own,
        accuracyOfFraction (mantissa <<< shift % mantissa') mantissa') := by
    simp only [divCore, targetExponent_eq, target, amount]
  have value : ((mantissa <<< shift : Nat) : ℚ) / mantissa' * 2 ^ own =
      mantissa * 2 ^ exponent / (mantissa' * 2 ^ exponent') := by
    have further : (shift : Int) + own = exponent - exponent' := by omega
    have power : (2 : ℚ) ^ shift * 2 ^ own = 2 ^ exponent / 2 ^ exponent' := by
      rw [← zpow_natCast, ← zpow_add₀ two_ne_zero, further, zpow_sub₀ two_ne_zero]
    rw [Nat.shiftLeft_eq, mul_div_mul_comm, ← power]
    push_cast
    ring
  simp only [UnpackedFloat.div, core]
  exact roundWithAccuracy_eq (locates_quotient _ positive') low some fits (value ▸ around)

end

/-! ## Whole numbers and powers of ten -/

/-- A double is the given number itself, and has all bits of its mantissa. -/
def Exactly (number : ℚ) (x : UnpackedFloat) : Prop :=
  ∃ mantissa exponent some, x = .finite .positive mantissa exponent some ∧
    2 ^ 52 ≤ mantissa ∧ (mantissa * 2 ^ exponent : ℚ) = number

theorem exactly_ofNat {value : Nat} (nonzero : value ≠ 0) (small : value < 2 ^ 53) :
    Exactly value value.toUInt64.toFloat.toModel.unpack := by
  have kept : value.toUInt64.toNat = value :=
    UInt64.toNat_ofNat_of_lt (Nat.lt_trans small (by decide))
  have few := (Nat.log2_lt nonzero).mpr small
  have full := le_shiftLeft_log2 nonzero small
  have short : value <<< (52 - value.log2) < 2 ^ 53 := by
    rw [Nat.shiftLeft_eq]
    calc value * 2 ^ (52 - value.log2) < 2 ^ (value.log2 + 1) * 2 ^ (52 - value.log2) :=
          Nat.mul_lt_mul_of_pos_right Nat.lt_log2_self (Nat.two_pow_pos _)
      _ = 2 ^ (value.log2 + 1 + (52 - value.log2)) := (Nat.pow_add ..).symm
      _ = 2 ^ 53 := congrArg (2 ^ ·) (by omega)
  have fits : Fits (value <<< (52 - value.log2)) (value.log2 - 52) := ⟨short, by omega, .inr full⟩
  have some : 0 < value <<< (52 - value.log2) := by omega
  have low : (value.log2 : Int) - 52 ≤ Format.binary64.targetExponent
      (totalExponent (value <<< (52 - value.log2)) (value.log2 - 52)) := by
    have many := (Nat.le_log2 some.ne').mpr full
    rw [targetExponent_eq, totalExponent]
    omega
  have rounded : UnpackedFloat.ofNat Format.binary64 value =
      .finite .positive _ (value.log2 - 52) some := by
    rw [ofNat_eq_roundWithAccuracy nonzero small]
    have locates : Locates (.ofMantissaAndAccuracy (value <<< (52 - value.log2)) .exact)
        ((value <<< (52 - value.log2) : Nat) : ℚ) := rfl
    exact roundWithAccuracy_eq locates low some fits (around_self _ _)
  refine ⟨_, value.log2 - 52, some, ?_, full, ?_⟩
  · change (Float.Model.pack (UnpackedFloat.ofNat Format.binary64 value.toUInt64.toNat)).unpack = _
    rw [kept, rounded]
    exact unpack_pack_of_fits some fits (by omega)
  · have power : ((52 - value.log2 : Nat) : Int) + (value.log2 - 52) = 0 := by omega
    rw [Nat.shiftLeft_eq]
    push_cast
    rw [mul_assoc, ← zpow_natCast, ← zpow_add₀ two_ne_zero, power, zpow_zero, mul_one]

def isPowerOfTen (power : Nat) : UnpackedFloat → Bool
  | .finite .positive mantissa exponent _ =>
      2 ^ 52 ≤ mantissa ∧ -52 ≤ exponent ∧
        mantissa * 2 ^ (exponent + 52).toNat = 10 ^ power * 2 ^ 52
  | _ => false

theorem exactly_of_isPowerOfTen {power : Nat} {x : UnpackedFloat} (told : isPowerOfTen power x = true) :
    Exactly (10 ^ power) x := by
  unfold isPowerOfTen at told
  split at told
  · next mantissa exponent some =>
    rcases of_decide_eq_true told with ⟨full, least, value⟩
    refine ⟨mantissa, exponent, some, rfl, full, ?_⟩
    have shifted : ((exponent + 52).toNat : Int) = exponent + 52 := by omega
    have scaled : (mantissa : ℚ) * 2 ^ (exponent + 52) = 10 ^ power * 2 ^ 52 := by
      rw [← shifted, zpow_natCast]
      exact_mod_cast value
    rw [zpow_add₀ two_ne_zero, ← mul_assoc] at scaled
    exact mul_right_cancel₀ (by norm_num) scaled
  · cases told

theorem powersOfTen_table : ∀ power : Fin Float.exactlyRepresentablePowersOfTen.size,
    isPowerOfTen power.val (Float.exactlyRepresentablePowersOfTen[power]).toModel.unpack = true := by
  decide +kernel

theorem exactly_powerOfTen {power : Nat} (few : power < Float.exactlyRepresentablePowersOfTen.size) :
    Exactly (10 ^ power) (Float.exactlyRepresentablePowersOfTen[power]).toModel.unpack :=
  exactly_of_isPowerOfTen (powersOfTen_table ⟨power, few⟩)

/-! ## Decimals -/

section

variable {mantissa digits : Nat} {exponent power : Int} (some : 0 < mantissa)
  (fits : Fits mantissa exponent) (high : exponent ≤ 971)
  (around : Around mantissa exponent (digits * 10 ^ power))

include some fits around

theorem Around.lower_le : (2 : ℚ) ^ (-1075 : Int) ≤ digits * 10 ^ power := by
  have reach := (quartersBelow_bounds mantissa exponent).2
  have least : (1 : ℚ) ≤ mantissa := by exact_mod_cast some
  calc (2 : ℚ) ^ (-1075 : Int) = 1 / 2 * 2 ^ (-1074 : Int) := by
        rw [show (-1075 : Int) = -1 + -1074 from rfl, zpow_add₀ two_ne_zero]
        norm_num
    _ ≤ (mantissa - quartersBelow mantissa exponent / 4) * 2 ^ exponent := by
        exact mul_le_mul (by linarith) (zpow_le_zpow_right₀ one_le_two fits.2.1)
          (zpow_pos two_pos _).le (by linarith)
    _ ≤ digits * 10 ^ power := around.1

include high in
omit some in
theorem Around.lt_upper : (digits * 10 ^ power : ℚ) < 2 ^ 1024 := by
  have short : (mantissa + 1 : ℚ) ≤ 2 ^ 53 := by exact_mod_cast fits.1
  calc (digits * 10 ^ power : ℚ) ≤ (mantissa + 1 / 2) * 2 ^ exponent := around.2.1
    _ < 2 ^ 53 * 2 ^ exponent := mul_lt_mul_of_pos_right (by linarith) (zpow_pos two_pos _)
    _ ≤ 2 ^ 53 * 2 ^ (971 : Int) :=
        mul_le_mul_of_nonneg_left (zpow_le_zpow_right₀ one_le_two high) (by norm_num)
    _ = 2 ^ 1024 := by
        rw [zpow_ofNat, ← pow_add]

theorem Around.digits_ne_zero : digits ≠ 0 := by
  rintro rfl
  have lower := around.lower_le some fits
  rw [Nat.cast_zero, zero_mul] at lower
  exact absurd lower (not_le.mpr (zpow_pos two_pos _))

end

theorem digitChars_bounds {digits : Nat} (nonzero : digits ≠ 0) :
    10 ^ ((digitChars digits).length - 1) ≤ digits ∧ digits < 10 ^ (digitChars digits).length := by
  have some := List.length_pos_iff.mpr (digitChars_ne_nil digits)
  rw [digitChars, Nat.toList_repr] at *
  constructor
  · by_contra less
    rcases Nat.eq_zero_or_pos ((Nat.toDigits 10 digits).length - 1) with single | several
    · rw [single] at less
      omega
    · have shorter := (Nat.length_toDigits_le_iff (by decide) several).mpr (not_le.mp less)
      omega
  · exact (Nat.length_toDigits_le_iff (by decide) some).mp (Nat.le_refl _)

theorem decimal_bounds {digits : Nat} (nonzero : digits ≠ 0) (power : Int) :
    (10 : ℚ) ^ ((digitChars digits).length + power - 1) ≤ digits * 10 ^ power ∧
      (digits * 10 ^ power : ℚ) < 10 ^ ((digitChars digits).length + power) := by
  have some := List.length_pos_iff.mpr (digitChars_ne_nil digits)
  rcases digitChars_bounds nonzero with ⟨low, high⟩
  have unit : (0 : ℚ) < 10 ^ power := zpow_pos (by norm_num) power
  constructor
  · have split : ((digitChars digits).length + power - 1 : Int) =
        (((digitChars digits).length - 1 : Nat) : Int) + power := by omega
    rw [split, zpow_add₀ (by norm_num), zpow_natCast]
    exact mul_le_mul_of_nonneg_right (by exact_mod_cast low) unit.le
  · rw [zpow_add₀ (by norm_num), zpow_natCast]
    exact mul_lt_mul_of_pos_right (by exact_mod_cast high) unit

theorem size_bounds {digits : Nat} {power : Int} (nonzero : digits ≠ 0)
    (lower : (2 : ℚ) ^ (-1075 : Int) ≤ digits * 10 ^ power) (upper : (digits * 10 ^ power : ℚ) < 2 ^ 1024) :
    -330 ≤ (digitChars digits).length + power ∧ (digitChars digits).length + power ≤ 310 := by
  rcases decimal_bounds nonzero power with ⟨low, high⟩
  constructor
  · by_contra small
    have few : (10 : ℚ) ^ ((digitChars digits).length + power) ≤ 10 ^ (-331 : Int) :=
      zpow_le_zpow_right₀ (by norm_num) (by omega)
    have least : (10 : ℚ) ^ (-331 : Int) < 2 ^ (-1075 : Int) := by
      rw [zpow_neg, zpow_neg, zpow_ofNat, zpow_ofNat]
      exact inv_strictAnti₀ (by positivity) (by exact_mod_cast (by decide +kernel : 2 ^ 1075 < 10 ^ 331))
    exact absurd (lower.trans (high.le.trans few)) (not_le.mpr least)
  · by_contra large
    have many : (10 : ℚ) ^ (310 : Int) ≤ 10 ^ ((digitChars digits).length + power - 1) :=
      zpow_le_zpow_right₀ (by norm_num) (by omega)
    have greatest : (2 : ℚ) ^ 1024 < 10 ^ (310 : Int) := by
      rw [zpow_ofNat]
      exact_mod_cast (by decide +kernel : 2 ^ 1024 < 10 ^ 310)
    exact absurd (many.trans (low.trans upper.le)) (not_le.mpr greatest)

/-- A decimal that lies around a double is read as this double, digit for digit. -/
theorem ofScientific_eq {mantissa digits : Nat} {exponent power : Int} (some : 0 < mantissa)
    (fits : Fits mantissa exponent) (around : Around mantissa exponent (digits * 10 ^ power))
    (small : -330 ≤ (digitChars digits).length + power) (large : (digitChars digits).length + power ≤ 310) :
    UnpackedFloat.ofScientific Format.binary64 digits power = .finite .positive mantissa exponent some := by
  have nonzero := around.digits_ne_zero some fits
  have bits : Format.binary64.mantissaBits = 53 := rfl
  have many : (digitChars digits).length ≤ digits.log2 + 1 := by
    have low := (digitChars_bounds nonzero).1
    have less : 2 ^ ((digitChars digits).length - 1) ≤ digits :=
      (Nat.pow_le_pow_left (by decide) _).trans low
    have log := (Nat.le_log2 nonzero).mpr less
    omega
  have below : ¬ power > 2 ^ 11 := by omega
  have above : ¬ power < -(2 ^ 11 + (digits.log2 : Int)) := by omega
  simp only [UnpackedFloat.ofScientific, nonzero, dif_neg, not_false_eq_true, below, above, if_false, bits]
  split
  · next nonneg =>
    have value : ((digits <<< 53 : Nat) : ℚ) * 2 ^ (-(53 : Nat) : Int) *
        ((10 ^ power.toNat : Nat) * 2 ^ (0 : Int)) = digits * 10 ^ power := by
      have whole : (10 : ℚ) ^ power.toNat = 10 ^ power := by
        rw [← zpow_natCast, Int.toNat_of_nonneg nonneg]
      rw [Nat.shiftLeft_eq, zpow_neg, zpow_natCast, zpow_zero, mul_one, Nat.cast_mul, Nat.cast_pow,
        Nat.cast_pow, Nat.cast_ofNat, Nat.cast_ofNat, mul_inv_cancel_right₀ (by norm_num), whole]
    have enough : 2 ^ 52 ≤ digits <<< 53 * 10 ^ power.toNat := by
      have shifted : 2 ^ 52 ≤ digits <<< 53 := by
        rw [Nat.shiftLeft_eq]
        omega
      exact shifted.trans (Nat.le_mul_of_pos_right _ (Nat.pow_pos (by decide)))
    rw [← value] at around
    rw [mul_eq_of_around _ _ some fits enough around]
    rfl
  · next negative =>
    have value : (digits * 2 ^ (0 : Int) / ((10 ^ (-power).toNat : Nat) * 2 ^ (0 : Int)) : ℚ) =
        digits * 10 ^ power := by
      have inverse : (10 : ℚ) ^ (-power).toNat = (10 ^ power)⁻¹ := by
        rw [← zpow_natCast, Int.toNat_of_nonneg (by omega), zpow_neg]
      rw [zpow_zero, mul_one, mul_one, Nat.cast_pow, Nat.cast_ofNat, inverse, div_inv_eq_mul]
    rw [← value] at around
    rw [div_eq_of_around _ _ some fits around]
    rfl

theorem ofScientific_fast {mantissa digits : Nat} {exponent power : Int} (some : 0 < mantissa)
    (fits : Fits mantissa exponent) (around : Around mantissa exponent (digits * 10 ^ power))
    (short : digits < 2 ^ 53) (few : power.natAbs < Float.exactlyRepresentablePowersOfTen.size) :
    (if decide (power < 0) = true then
      UnpackedFloat.div Format.binary64 digits.toUInt64.toFloat.toModel.unpack
        (Float.exactlyRepresentablePowersOfTen[power.natAbs]).toModel.unpack
    else
      UnpackedFloat.mul Format.binary64 digits.toUInt64.toFloat.toModel.unpack
        (Float.exactlyRepresentablePowersOfTen[power.natAbs]).toModel.unpack) =
      .finite .positive mantissa exponent some := by
  have nonzero := around.digits_ne_zero some fits
  rcases exactly_ofNat nonzero short with ⟨first, own, more, unpacked, full, value⟩
  rcases exactly_powerOfTen few with ⟨second, other, most, tens, full', ten⟩
  rw [unpacked, tens]
  split
  · next negative =>
    have inverse : (10 : ℚ) ^ power.natAbs = (10 ^ power)⁻¹ := by
      have flipped : (power.natAbs : Int) = -power := by
        have := of_decide_eq_true negative
        omega
      rw [← zpow_natCast, flipped, zpow_neg]
    have same : (first * 2 ^ own / (second * 2 ^ other) : ℚ) = digits * 10 ^ power := by
      rw [value, ten, inverse, div_inv_eq_mul]
    rw [div_eq_of_around _ _ some fits (same ▸ around)]
    rfl
  · next nonneg =>
    have whole : (10 : ℚ) ^ power.natAbs = 10 ^ power := by
      have kept : (power.natAbs : Int) = power := by
        have := of_decide_eq_false (Bool.eq_false_iff.mpr nonneg)
        omega
      rw [← zpow_natCast, kept]
    have same : (first * 2 ^ own * (second * 2 ^ other) : ℚ) = digits * 10 ^ power := by
      rw [value, ten, whole]
    rw [mul_eq_of_around _ _ some fits (full.trans (Nat.le_mul_of_pos_right first most)) (same ▸ around)]
    rfl

/-- A decimal that lies around a double is read as this double. -/
theorem unpack_nearest {mantissa digits : Nat} {exponent power : Int} (some : 0 < mantissa)
    (fits : Fits mantissa exponent) (high : exponent ≤ 971)
    (around : Around mantissa exponent (digits * 10 ^ power)) :
    (nearest digits power).toModel.unpack = .finite .positive mantissa exponent some := by
  have nonzero := around.digits_ne_zero some fits
  rcases size_bounds nonzero (around.lower_le some fits) (around.lt_upper fits high) with ⟨small, large⟩
  simp only [nearest, nonzero, false_or, not_lt.mpr small, not_lt.mpr large, if_false, Float.ofScientific]
  have size : power.natAbs ≤ 22 → power.natAbs < Float.exactlyRepresentablePowersOfTen.size :=
    fun few => Nat.lt_succ_of_le few
  split
  · next fast =>
    have whole := ofScientific_fast some fits around fast.1 (size fast.2)
    split at whole <;> next sign =>
      simp only [sign, if_true]
      change (Float.Model.pack _).unpack = _
      rw [whole]
      exact unpack_pack_of_fits some fits high
  · have signed : (if decide (power < 0) = true then Int.negOfNat power.natAbs else Int.ofNat power.natAbs) =
        power := by
      rw [Int.negOfNat_eq]
      split <;> next sign =>
        rw [decide_eq_true_eq] at sign
        rw [Int.ofNat_eq_natCast]
        omega
    rw [signed]
    change (Float.Model.pack _).unpack = _
    rw [ofScientific_eq some fits around small large]
    exact unpack_pack_of_fits some fits high

end Number

end GuardedSteps
