import GuardedSteps.Proofs.Clock
import GuardedSteps.Proofs.Number.Doubles

/-!
Positive doubles with all bits of a mantissa. Rounding leaves such a double with all its bits, as long
as it is not too small, and packing leaves it as it is or makes it infinite. A positive whole number
of milliseconds is such a double, and so is the number of seconds it comes to.
-/

namespace GuardedSteps

namespace Number

open Float.Model Float.Model.UnpackedFloat

/-- A positive double that has all bits of its mantissa, and an exponent that is not below some number. -/
def Normal (low : Int) : UnpackedFloat → Prop
  | .finite .positive mantissa exponent _ => 2 ^ 52 ≤ mantissa ∧ mantissa < 2 ^ 53 ∧ low ≤ exponent
  | _ => False

theorem Normal.exists_eq {low : Int} {x : UnpackedFloat} (normal : Normal low x) :
    ∃ mantissa exponent positive, x = .finite .positive mantissa exponent positive ∧
      2 ^ 52 ≤ mantissa ∧ mantissa < 2 ^ 53 ∧ low ≤ exponent := by
  cases x with
  | infinity => exact normal.elim
  | notANumber => exact normal.elim
  | zero => exact normal.elim
  | finite sign mantissa exponent positive =>
      cases sign with
      | negative => exact normal.elim
      | positive => exact ⟨mantissa, exponent, positive, rfl, normal⟩

theorem log2_of_full {mantissa : Nat} (full : 2 ^ 52 ≤ mantissa) (short : mantissa < 2 ^ 53) :
    mantissa.log2 = 52 := by
  have many := (Nat.le_log2 (by omega)).mpr full
  have few := (Nat.log2_lt (by omega)).mpr short
  omega

/-! ## Rounding -/

theorem le_roundedMantissa (extended : ExtendedMantissa) :
    extended.mantissa ≤ extended.roundedMantissa := by
  rcases extended with ⟨mantissa, roundBit, stickyBit⟩
  cases roundBit <;> cases stickyBit <;>
    simp only [ExtendedMantissa.roundedMantissa, ExtendedMantissa.accuracy,
      Accuracy.roundToNearestEven] <;>
    omega

theorem shiftToTargetExponent_normal {mantissa : Nat} {exponent : Int} (accuracy : Accuracy)
    (full : 2 ^ 52 ≤ mantissa) (high : -1074 ≤ totalExponent mantissa exponent - 53) :
    let shifted := shiftToTargetExponent Format.binary64 mantissa exponent accuracy
    2 ^ 52 ≤ shifted.1.mantissa ∧ shifted.1.mantissa < 2 ^ 53 ∧
      shifted.2 = totalExponent mantissa exponent - 53 := by
  have some : mantissa ≠ 0 := by omega
  have many : 52 ≤ mantissa.log2 := (Nat.le_log2 some).mpr full
  have amount : (Format.binary64.targetExponent (totalExponent mantissa exponent) - exponent).toNat =
      mantissa.log2 - 52 := by
    rw [targetExponent_eq]
    unfold totalExponent at *
    omega
  simp only [shiftToTargetExponent, shiftToExponent, amount, mantissa_shiftRight,
    mantissa_ofMantissaAndAccuracy]
  have least := Nat.log2_self_le some
  have bound : mantissa < 2 ^ (mantissa.log2 + 1) := Nat.lt_log2_self
  refine ⟨?_, ?_, ?_⟩
  · rw [Nat.le_div_iff_mul_le (Nat.two_pow_pos _), ← Nat.pow_add, Nat.add_sub_cancel' many]
    exact least
  · rw [Nat.div_lt_iff_lt_mul (Nat.two_pow_pos _), ← Nat.pow_add]
    have same : 53 + (mantissa.log2 - 52) = mantissa.log2 + 1 := by omega
    rw [same]
    exact bound
  · unfold totalExponent
    omega

theorem normal_roundWithAccuracy {mantissa : Nat} {exponent low : Int} (accuracy : Accuracy)
    (full : 2 ^ 52 ≤ mantissa) (range : -1074 ≤ low) (high : low ≤ totalExponent mantissa exponent - 53) :
    Normal low (roundWithAccuracy Format.binary64 .positive mantissa exponent accuracy) := by
  rcases shiftToTargetExponent_normal accuracy full (Int.le_trans range high) with ⟨least, -, reached⟩
  have rounded := Nat.le_trans least (le_roundedMantissa _)
  have many := (Nat.le_log2 (by omega)).mpr rounded
  have above : low ≤ totalExponent
      (shiftToTargetExponent Format.binary64 mantissa exponent accuracy).1.roundedMantissa
      (shiftToTargetExponent Format.binary64 mantissa exponent accuracy).2 - 53 := by
    rw [reached]
    unfold totalExponent at high ⊢
    omega
  -- Rounding up may have made the mantissa one bit longer, so it is shifted once more.
  rcases shiftToTargetExponent_normal .exact rounded (Int.le_trans range above) with
    ⟨final, short, last⟩
  simp only [roundWithAccuracy]
  split
  · next zero =>
    rw [zero] at final
    omega
  · exact ⟨final, short, last ▸ above⟩

/-! ## Packing -/

theorem unpackSign_packComponents {format : Format} (sign : Sign)
    (exponent : BitVec format.exponentBits) (mantissa : BitVec format.mantissaBitsWithoutImplicit) :
    unpackSign (packComponents format sign exponent mantissa) = sign.toBitVec := by
  ext i inside
  have first : i = 0 := by omega
  simp [unpackSign, packComponents, BitVec.getLsbD_append, BitVec.getElem_append, first]

theorem normal_unpack_packComponents {biased : Nat} (some : 0 < biased) (fits : biased < 2047)
    {low : Int} (high : low + 1075 ≤ biased) (mantissa : BitVec 52) :
    Normal low (UnpackedFloat.unpack Format.binary64
      (packComponents Format.binary64 .positive (BitVec.ofNat 11 biased) mantissa)) := by
  have field : (BitVec.ofNat 11 biased).toNat = biased := by
    rw [BitVec.toNat_ofNat, Nat.mod_eq_of_lt (by omega)]
  have unfilled : BitVec.ofNat 11 biased ≠ -1#11 := by
    intro filled
    have full : (-1#11 : BitVec 11).toNat = 2047 := by decide
    rw [← filled, field] at full
    omega
  have nonempty : BitVec.ofNat 11 biased ≠ 0#11 := by
    intro empty
    rw [empty] at field
    change 0 = biased at field
    omega
  have bias : (Format.binary64.exponentBias : Int) = 1023 := by decide
  have sign : Sign.ofBitVec Sign.positive.toBitVec = .positive := rfl
  simp only [UnpackedFloat.unpack, unpackExponent_packComponents, unpackMantissa_packComponents,
    unpackSign_packComponents, unfilled, nonempty, if_false, bias, field, sign]
  have short := (1#1 ++ mantissa).isLt
  have full : 2 ^ 52 ≤ (1#1 ++ mantissa).toNat := by
    rw [BitVec.toNat_append]
    exact Nat.le_trans (by decide) Nat.left_le_or
  refine ⟨full, short, ?_⟩
  omega

theorem normal_unpack_pack {low : Int} (range : -1074 ≤ low) {x : UnpackedFloat} (normal : Normal low x) :
    Normal low (Float.Model.pack x).unpack ∨ (Float.Model.pack x).unpack = .infinity .positive := by
  rcases normal.exists_eq with ⟨mantissa, exponent, positive, rfl, full, short, high⟩
  have bits : mantissa.log2 + 1 = Format.binary64.mantissaBits :=
    congrArg (· + 1) (log2_of_full full short)
  have bias : (Format.binary64.exponentBias : Int) = 1023 := by decide
  change Normal low (UnpackedFloat.unpack Format.binary64 (UnpackedFloat.pack Format.binary64
    (.finite .positive mantissa exponent positive))) ∨ UnpackedFloat.unpack Format.binary64
      (UnpackedFloat.pack Format.binary64 (.finite .positive mantissa exponent positive)) = _
  simp only [UnpackedFloat.pack, bits, if_true, bias]
  split
  · exact .inr rfl
  · next fits => exact .inl (normal_unpack_packComponents (by omega) (by omega) (by omega) _)

/-! ## Products and quotients -/

/-- A product that is not too small has all bits of a mantissa. -/
theorem normal_mul {low other : Int} {x y : UnpackedFloat} (first : Normal low x) (second : Normal other y)
    (range : -1074 ≤ low + other + 52) :
    Normal (low + other + 52) (UnpackedFloat.mul Format.binary64 x y) := by
  rcases first.exists_eq with ⟨mantissa, exponent, positive, rfl, full, -, high⟩
  rcases second.exists_eq with ⟨mantissa', exponent', positive', rfl, full', -, high'⟩
  have product : 2 ^ 52 * 2 ^ 52 ≤ mantissa * mantissa' := Nat.mul_le_mul full full'
  rw [← Nat.pow_add] at product
  have many := (Nat.le_log2 (by omega)).mpr product
  apply normal_roundWithAccuracy .exact (Nat.le_trans (by decide) product) range
  unfold totalExponent
  omega

theorem normal_div_thousand {x : UnpackedFloat} (normal : Normal (-52) x) :
    Normal (-62) (UnpackedFloat.div Format.binary64 x
      (.finite .positive (1000 * 2 ^ 43) (-43) (by decide))) := by
  rcases normal.exists_eq with ⟨mantissa, exponent, positive, rfl, full, short, high⟩
  have bits := log2_of_full full short
  have others : (1000 * 2 ^ 43).log2 = 52 := by decide
  have target : min (exponent - -43) (Format.binary64.targetExponent
      (totalExponent mantissa exponent - totalExponent (1000 * 2 ^ 43) (-43))) = exponent - 10 := by
    rw [targetExponent_eq, totalExponent, totalExponent, bits, others]
    omega
  have shift : (exponent - -43 - (exponent - 10)).toNat = 53 := by omega
  simp only [UnpackedFloat.div, divCore, target, shift]
  have quotient : 2 ^ 52 ≤ mantissa <<< 53 / (1000 * 2 ^ 43) := by
    rw [Nat.le_div_iff_mul_le (by decide), Nat.shiftLeft_eq]
    omega
  have many := (Nat.le_log2 (by omega)).mpr quotient
  apply normal_roundWithAccuracy _ quotient (by decide)
  unfold totalExponent
  omega

/-! ## Whole numbers -/

theorem le_shiftLeft_log2 {value : Nat} (some : value ≠ 0) (small : value < 2 ^ 53) :
    2 ^ 52 ≤ value <<< (52 - value.log2) := by
  have few := (Nat.log2_lt some).mpr small
  rw [Nat.shiftLeft_eq]
  calc 2 ^ 52 = 2 ^ value.log2 * 2 ^ (52 - value.log2) := by
        rw [← Nat.pow_add, Nat.add_sub_cancel' (by omega)]
    _ ≤ value * 2 ^ (52 - value.log2) := Nat.mul_le_mul_right _ (Nat.log2_self_le some)

theorem ofNat_eq_roundWithAccuracy {value : Nat} (some : value ≠ 0) (small : value < 2 ^ 53) :
    UnpackedFloat.ofNat Format.binary64 value = roundWithAccuracy Format.binary64 .positive
      (value <<< (52 - value.log2)) (value.log2 - 52) .exact := by
  have positive : compare (value : Int) 0 = .gt := Int.compare_eq_gt.mpr (by omega)
  have few := (Nat.log2_lt some).mpr small
  have target : Format.binary64.targetExponent (totalExponent value 0) = (value.log2 : Int) - 52 := by
    rw [targetExponent_eq, totalExponent]
    omega
  have amount : (0 - ((value.log2 : Int) - 52)).toNat = 52 - value.log2 := by omega
  have exponent : (0 : Int) - ((52 - value.log2 : Nat) : Int) = value.log2 - 52 := by omega
  simp only [UnpackedFloat.ofNat, UnpackedFloat.ofInt, UnpackedFloat.normalize, positive, Int.toNat_natCast,
    UnpackedFloat.round, decreaseExponent, target, amount, exponent]

theorem normal_ofNat {value : Nat} (some : value ≠ 0) (small : value < 2 ^ 53) :
    Normal (-52) (UnpackedFloat.ofNat Format.binary64 value) := by
  have full := le_shiftLeft_log2 some small
  have many := (Nat.le_log2 (by omega)).mpr full
  rw [ofNat_eq_roundWithAccuracy some small]
  apply normal_roundWithAccuracy .exact full (by decide)
  unfold totalExponent
  omega

theorem normal_one : Normal (-52) (Float.ofBits oneBits).toModel.unpack := by
  change Normal (-52) (.finite .positive (2 ^ 52) (-52) (by decide))
  exact ⟨Nat.le_refl _, by decide, Int.le_refl _⟩

theorem normal_nearest_of_lt {value : Nat} (some : value ≠ 0) (small : value < 2 ^ 53)
    (finite : (nearest value 0).isInf = false) : Normal (-52) (nearest value 0).toModel.unpack := by
  rw [nearest_eq_of_lt some small] at finite ⊢
  have kept : value.toUInt64.toNat = value :=
    UInt64.toNat_ofNat_of_lt (Nat.lt_trans small (by decide))
  have factor : Normal (-52) value.toUInt64.toFloat.toModel.unpack ∨
      value.toUInt64.toFloat.toModel.unpack = .infinity .positive := by
    apply normal_unpack_pack (by decide)
    change Normal (-52) (UnpackedFloat.ofNat Format.binary64 value.toUInt64.toNat)
    rw [kept]
    exact normal_ofNat some small
  change ((Float.Model.pack (UnpackedFloat.mul Format.binary64 value.toUInt64.toFloat.toModel.unpack
    (Float.ofBits oneBits).toModel.unpack)).unpack).isInf = false at finite
  change Normal (-52) (Float.Model.pack (UnpackedFloat.mul Format.binary64
    value.toUInt64.toFloat.toModel.unpack (Float.ofBits oneBits).toModel.unpack)).unpack
  rcases factor with factor | infinite
  · rcases normal_unpack_pack (by decide) (normal_mul factor normal_one (by decide)) with product | infinite
    · exact product
    · rw [infinite] at finite
      cases finite
  · rw [infinite] at finite
    cases finite

theorem normal_ofScientific {value : Nat} (large : 2 ^ 53 ≤ value) :
    Normal (-52) (UnpackedFloat.ofScientific Format.binary64 value 0) := by
  have some : value ≠ 0 := by omega
  have low : ¬ (0 : Int) > 2 ^ 11 := by decide
  have high : ¬ (0 : Int) < -(2 ^ 11 + (value.log2 : Int)) := by omega
  have bits : Format.binary64.mantissaBits = 53 := rfl
  have factor : 10 ^ (0 : Int).toNat = 1 := rfl
  have sign : Sign.positive * Sign.positive = .positive := rfl
  simp only [UnpackedFloat.ofScientific, some, low, high, dif_neg, not_false_eq_true, if_false,
    Int.le_refl, if_true, UnpackedFloat.mul, bits, factor, sign, Nat.mul_one, Int.add_zero]
  generalize shifted : value <<< 53 = mantissa
  have wide : 2 ^ 106 ≤ mantissa := by
    rw [← shifted, Nat.shiftLeft_eq]
    omega
  have many := (Nat.le_log2 (by omega)).mpr wide
  apply normal_roundWithAccuracy .exact (Nat.le_trans (by decide) wide) (by decide)
  unfold totalExponent
  omega

theorem normal_nearest_of_le {value : Nat} (large : 2 ^ 53 ≤ value)
    (finite : (nearest value 0).isInf = false) : Normal (-52) (nearest value 0).toModel.unpack := by
  have some : value ≠ 0 := by omega
  have sized : ¬ (((digitChars value).length : Int) + 0 < -330) := by omega
  have fitting : ¬ (310 < ((digitChars value).length : Int) + 0) := by
    intro beyond
    simp only [nearest, some, sized, beyond, or_self, if_false, if_true] at finite
    cases finite
  have whole : nearest value 0 = Float.ofModel (Float.Model.ofScientific value 0) := by
    simp only [nearest, some, sized, fitting, false_or, if_false]
    exact dif_neg fun short => absurd short.1 (by omega)
  rw [whole] at finite ⊢
  rcases normal_unpack_pack (by decide) (normal_ofScientific large) with normal | infinite
  · exact normal
  · change (Float.Model.ofScientific value 0).unpack.isInf = false at finite
    rw [Float.Model.ofScientific, infinite] at finite
    cases finite

theorem normal_of_ofInteger {value : Int} (positive : 0 < value) {x : Float}
    (found : ofInteger value = some x) : Normal (-52) x.toModel.unpack := by
  have finite : (nearest value.natAbs 0).isInf = false := by
    rw [Bool.eq_false_iff]
    intro infinite
    simp [ofInteger, infinite] at found
  have same : x = nearest value.natAbs 0 := by
    have unsigned : ¬ value < 0 := by omega
    simpa [ofInteger, finite, unsigned] using found.symm
  rw [same]
  by_cases small : value.natAbs < 2 ^ 53
  · exact normal_nearest_of_lt (by omega) small finite
  · exact normal_nearest_of_le (by omega) finite

/-! ## Comparisons with zero -/

theorem float_le_iff (x y : Float) : x ≤ y ↔ x.toModel.unpack.le y.toModel.unpack = true := by
  change decide (x.toModel.unpack.le y.toModel.unpack = true) = true ↔ _
  exact decide_eq_true_iff

theorem not_le_zero {x : Float} {low : Int}
    (positive : Normal low x.toModel.unpack ∨ x.toModel.unpack = .infinity .positive) : ¬ x ≤ 0.0 := by
  rw [float_le_iff]
  have zero : (0.0 : Float).toModel.unpack = .zero .positive := rfl
  rw [zero]
  rcases positive with normal | infinite
  · rcases normal.exists_eq with ⟨mantissa, exponent, some, unpacked, -⟩
    rw [unpacked]
    nofun
  · rw [infinite]
    nofun

/-! ## Seconds -/

/-- The seconds of a positive number of milliseconds are not too few. -/
theorem normal_of_ofMillis {millis : Int} (positive : 0 < millis) {span : Float}
    (measured : ClockTime.ofMillis millis = .ok span) :
    Normal (-62) span.toModel.unpack ∨ span.toModel.unpack = .infinity .positive := by
  simp only [ClockTime.ofMillis] at measured
  split at measured
  · next x found =>
    cases measured
    have thousand : (1000.0 : Float).toModel.unpack =
        .finite .positive (1000 * 2 ^ 43) (-43) (by decide) := rfl
    have quotient := normal_div_thousand (normal_of_ofInteger positive found)
    rw [← thousand] at quotient
    exact normal_unpack_pack (by decide) quotient
  · cases measured

end Number

instance : ClockTime.Lasting Float where
  lasting positive measured :=
    decide_eq_false (Number.not_le_zero (Number.normal_of_ofMillis positive measured))

end GuardedSteps
