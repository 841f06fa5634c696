import GuardedSteps.Proofs.Number.Digits
import Mathlib

/-!
Doubles far from the end of their range. What is known of such a double is how many bits its mantissa
has at most, and a bound of its exponent, or a power of two that it is less than. Rounding and products
keep to bounds like these, and packing does too, so the waits of guards are finite doubles.
-/

namespace GuardedSteps

namespace Number

open Float.Model Float.Model.UnpackedFloat

/-- A double that is zero, or that has only so many bits in its mantissa and an exponent that is not
above some number. -/
def Moderate (bits : Nat) (top : Int) : UnpackedFloat → Prop
  | .zero _ => True
  | .finite _ mantissa exponent _ => mantissa < 2 ^ bits ∧ exponent ≤ top
  | .infinity _ => False
  | .notANumber => False

theorem Moderate.isInf {bits : Nat} {top : Int} {x : UnpackedFloat} (moderate : Moderate bits top x) :
    x.isInf = false := by
  cases x with
  | infinity => exact moderate.elim
  | notANumber => rfl
  | zero => rfl
  | finite => rfl

/-! ## Sizes -/

/-- A mantissa and an exponent that come to less than a power of two. -/
def Below (size : Int) (mantissa : Nat) (exponent : Int) : Prop :=
  ∃ bits : Nat, mantissa < 2 ^ bits ∧ exponent + bits ≤ size

section

variable {size exponent : Int} {mantissa : Nat}

theorem Below.exponent_le (below : Below size mantissa exponent) : exponent ≤ size := by
  rcases below with ⟨bits, -, fits⟩
  omega

theorem Below.shiftLeft (below : Below size mantissa exponent) (amount : Nat) :
    Below size (mantissa <<< amount) (exponent - amount) := by
  rcases below with ⟨bits, small, fits⟩
  refine ⟨bits + amount, ?_, by omega⟩
  rw [Nat.shiftLeft_eq, Nat.pow_add]
  exact Nat.mul_lt_mul_of_pos_right small (Nat.two_pow_pos _)

theorem Below.shiftRight (below : Below size mantissa exponent) {amount : Nat}
    (fits : exponent + amount ≤ size) : Below size (mantissa / 2 ^ amount) (exponent + amount) := by
  rcases below with ⟨bits, small, few⟩
  refine ⟨bits - amount, ?_, by omega⟩
  rw [Nat.div_lt_iff_lt_mul (Nat.two_pow_pos _), ← Nat.pow_add]
  exact Nat.lt_of_lt_of_le small (Nat.pow_le_pow_right (by decide) (by omega))

theorem Below.succ (below : Below size mantissa exponent) : Below (size + 1) (mantissa + 1) exponent := by
  rcases below with ⟨bits, small, fits⟩
  refine ⟨bits + 1, ?_, by omega⟩
  rw [Nat.pow_succ]
  omega

theorem Below.of_le {lesser : Nat} (below : Below size mantissa exponent) (less : lesser ≤ mantissa) :
    Below size lesser exponent := by
  rcases below with ⟨bits, small, fits⟩
  exact ⟨bits, Nat.lt_of_le_of_lt less small, fits⟩

theorem Below.mul {other power : Int} {factor : Nat} (first : Below size mantissa exponent)
    (second : Below other factor power) : Below (size + other) (mantissa * factor) (exponent + power) := by
  rcases first with ⟨bits, small, fits⟩
  rcases second with ⟨others, few, fit⟩
  refine ⟨bits + others, ?_, by omega⟩
  rw [Nat.pow_add]
  exact Nat.mul_lt_mul'' small few

end

def Sized (size : Int) : UnpackedFloat → Prop
  | .zero _ => True
  | .finite _ mantissa exponent _ => Below size mantissa exponent
  | .infinity _ => False
  | .notANumber => False

theorem Moderate.sized {bits : Nat} {top : Int} {x : UnpackedFloat} (moderate : Moderate bits top x) :
    Sized (top + bits) x := by
  cases x with
  | infinity => exact moderate.elim
  | notANumber => exact moderate.elim
  | zero => trivial
  | finite sign mantissa exponent some => exact ⟨bits, moderate.1, Int.add_le_add_right moderate.2 _⟩

/-! ## Rounding -/

theorem mantissa_shiftRight (extended : ExtendedMantissa) (amount : Nat) :
    (extended >>> amount).mantissa = extended.mantissa / 2 ^ amount := by
  induction amount with
  | zero => exact (Nat.div_one _).symm
  | succ amount induction =>
      change (extended >>> amount).mantissa / 2 = _
      rw [induction, Nat.div_div_eq_div_mul, Nat.pow_succ]

theorem mantissa_ofMantissaAndAccuracy (mantissa : Nat) (accuracy : Accuracy) :
    (ExtendedMantissa.ofMantissaAndAccuracy mantissa accuracy).mantissa = mantissa := by
  cases accuracy with
  | exact => rfl
  | inexact order => cases order <;> rfl

theorem roundedMantissa_le (extended : ExtendedMantissa) :
    extended.roundedMantissa ≤ extended.mantissa + 1 := by
  rcases extended with ⟨mantissa, roundBit, stickyBit⟩
  cases roundBit <;> cases stickyBit <;>
    simp only [ExtendedMantissa.roundedMantissa, ExtendedMantissa.accuracy,
      Accuracy.roundToNearestEven] <;>
    omega

theorem targetExponent_eq (total : Int) :
    Format.binary64.targetExponent total = max (total - 53) (-1074) := by
  have least : Format.binary64.minExponent = -1074 := by decide
  have bits : (Format.binary64.mantissaBits : Int) = 53 := rfl
  rw [Format.targetExponent, least, bits]

theorem log2_le_of_lt {mantissa bits : Nat} (small : mantissa < 2 ^ bits) : mantissa.log2 ≤ bits := by
  by_cases zero : mantissa = 0
  · simp [zero]
  · exact Nat.le_of_lt ((Nat.log2_lt zero).mpr small)

theorem Below.targetExponent_le {size exponent : Int} {mantissa : Nat}
    (below : Below size mantissa exponent) (range : -1074 ≤ size) :
    Format.binary64.targetExponent (totalExponent mantissa exponent) ≤ size := by
  rcases below with ⟨bits, small, fits⟩
  have few := log2_le_of_lt small
  rw [targetExponent_eq, totalExponent]
  omega

theorem below_shiftToTargetExponent {size exponent : Int} {mantissa : Nat} (accuracy : Accuracy)
    (below : Below size mantissa exponent) (range : -1074 ≤ size) :
    let shifted := shiftToTargetExponent Format.binary64 mantissa exponent accuracy
    Below size shifted.1.mantissa shifted.2 := by
  have target := below.targetExponent_le range
  have low := below.exponent_le
  simp only [shiftToTargetExponent, shiftToExponent, mantissa_shiftRight, mantissa_ofMantissaAndAccuracy]
  exact below.shiftRight (by omega)

theorem sized_roundWithAccuracy {size exponent : Int} {mantissa : Nat} (sign : Sign) (accuracy : Accuracy)
    (below : Below size mantissa exponent) (range : -1074 ≤ size) :
    Sized (size + 1) (roundWithAccuracy Format.binary64 sign mantissa exponent accuracy) := by
  have first := below_shiftToTargetExponent accuracy below range
  have rounded := first.succ.of_le (roundedMantissa_le _)
  have second := below_shiftToTargetExponent .exact rounded (by omega)
  simp only [roundWithAccuracy]
  split
  · trivial
  · exact second

theorem sized_normalize {size value exponent : Int} (zeroSign : Sign)
    (below : Below size value.natAbs exponent) (range : -1074 ≤ size) :
    Sized (size + 1) (UnpackedFloat.normalize Format.binary64 value exponent zeroSign) := by
  have rounds (sign : Sign) {mantissa : Nat} (less : mantissa ≤ value.natAbs) :
      Sized (size + 1) (UnpackedFloat.round Format.binary64 sign mantissa exponent) :=
    sized_roundWithAccuracy sign .exact ((below.of_le less).shiftLeft _) range
  simp only [UnpackedFloat.normalize]
  split
  · exact rounds .negative (by omega)
  · trivial
  · exact rounds .positive (by omega)

/-! ## Packing -/

theorem moderate_unpack {bits : BitVec Format.binary64.numBits} {top : Int} (range : -1074 ≤ top)
    (fits : top < 971) (low : ((unpackExponent bits).toNat : Int) ≤ top + 1075) :
    Moderate 53 top (UnpackedFloat.unpack Format.binary64 bits) := by
  have unfilled : unpackExponent bits ≠ -1#_ := by
    intro filled
    have full : (-1#_ : BitVec Format.binary64.exponentBits).toNat = 2047 := by decide
    rw [filled, full] at low
    omega
  have bias : (Format.binary64.exponentBias : Int) = 1023 := by decide
  simp only [UnpackedFloat.unpack, unfilled, if_false, bias]
  split
  · next zero =>
    split
    · trivial
    · refine ⟨Nat.lt_trans (BitVec.isLt _) (by decide), ?_⟩
      have empty : (unpackExponent bits).toNat = 0 := congrArg BitVec.toNat zero
      rw [empty]
      omega
  · refine ⟨BitVec.isLt _, ?_⟩
    omega

/-- A packed double has as many bits as fit, and no greater exponent than before. -/
theorem moderate_unpack_pack {bits : Nat} {top : Int} (range : -1074 ≤ top) (fits : top < 971)
    {x : UnpackedFloat} (moderate : Moderate bits top x) :
    Moderate 53 top (Float.Model.pack x).unpack := by
  apply moderate_unpack range fits
  cases x with
  | infinity => exact moderate.elim
  | notANumber => exact moderate.elim
  | zero sign =>
      change ((unpackExponent (packedZero Format.binary64 sign)).toNat : Int) ≤ top + 1075
      rw [packedZero, unpackExponent_packComponents]
      change 0 ≤ top + 1075
      omega
  | finite sign mantissa exponent positive =>
      rcases moderate with ⟨-, low⟩
      change ((unpackExponent (UnpackedFloat.pack Format.binary64
        (.finite sign mantissa exponent positive))).toNat : Int) ≤ top + 1075
      have bias : (Format.binary64.exponentBias : Int) = 1023 := by decide
      simp only [UnpackedFloat.pack, bias]
      split
      · omega
      · split
        · simp only [unpackExponent_packComponents, BitVec.toNat_ofNat]
          omega
        · simp only [unpackExponent_packComponents, BitVec.toNat_ofNat]
          omega

theorem Sized.moderate_pack {size : Int} {x : UnpackedFloat} (sized : Sized size x) (range : -1074 ≤ size)
    (fits : size < 971) : Moderate 53 size (Float.Model.pack x).unpack := by
  cases x with
  | infinity => exact sized.elim
  | notANumber => exact sized.elim
  | zero sign =>
      have moderate : Moderate 53 size (.zero sign) := trivial
      exact moderate_unpack_pack range fits moderate
  | finite sign mantissa exponent some =>
      have low := Below.exponent_le sized
      rcases sized with ⟨bits, small, -⟩
      have moderate : Moderate bits size (.finite sign mantissa exponent some) := ⟨small, low⟩
      exact moderate_unpack_pack range fits moderate

/-! ## Products -/

theorem sized_mul {size other : Int} {x y : UnpackedFloat} (first : Sized size x) (second : Sized other y)
    (range : -1074 ≤ size + other) : Sized (size + other + 1) (UnpackedFloat.mul Format.binary64 x y) := by
  cases x with
  | infinity => exact first.elim
  | notANumber => exact first.elim
  | zero =>
    cases y with
    | infinity => exact second.elim
    | notANumber => exact second.elim
    | zero => trivial
    | finite => trivial
  | finite sign mantissa exponent some =>
    cases y with
    | infinity => exact second.elim
    | notANumber => exact second.elim
    | zero => trivial
    | finite => exact sized_roundWithAccuracy _ .exact (Below.mul first second) range

/-! ## Waits -/

def oneBits : UInt64 := 0x3FF0000000000000

theorem moderate_one : Moderate 53 (-52) (Float.ofBits oneBits).toModel.unpack := by
  change Moderate 53 (-52) (.finite .positive (2 ^ 52) (-52) (by decide))
  exact ⟨by decide, by decide⟩

theorem sized_ofNat {value : Nat} (small : value < 2 ^ 53) :
    Sized 54 (UnpackedFloat.ofNat Format.binary64 value) := by
  have below : Below 53 (value : Int).natAbs 0 := ⟨53, small, by decide⟩
  exact sized_normalize _ below (by decide)

theorem nearest_eq_of_lt {value : Nat} (some : value ≠ 0) (small : value < 2 ^ 53) :
    nearest value 0 = value.toUInt64.toFloat * Float.ofBits oneBits := by
  have short : (digitChars value).length ≤ 16 := by
    rw [digitChars, Nat.toList_repr, Nat.length_toDigits_le_iff (by decide) (by decide)]
    omega
  have sized : ¬ (((digitChars value).length : Int) + 0 < -330) := by omega
  have fitting : ¬ (310 < ((digitChars value).length : Int) + 0) := by omega
  simp only [nearest, some, sized, fitting, false_or, if_false]
  exact dif_pos ⟨small, Nat.zero_le 22⟩

/-- The double nearest to a whole number with few bits is moderate. -/
theorem moderate_nearest {value : Nat} (small : value < 2 ^ 53) :
    Moderate 53 109 (nearest value 0).toModel.unpack := by
  by_cases zero : value = 0
  · subst zero
    trivial
  · rw [nearest_eq_of_lt zero small]
    have factor : Moderate 53 54 value.toUInt64.toFloat.toModel.unpack := by
      have kept : value.toUInt64.toNat = value :=
        UInt64.toNat_ofNat_of_lt (Nat.lt_trans small (by decide))
      have sized := sized_ofNat small
      rw [← kept] at sized
      exact sized.moderate_pack (by decide) (by decide)
    have product := sized_mul factor.sized moderate_one.sized (by decide)
    exact product.moderate_pack (by decide) (by decide)

theorem ofInteger_of_le_maxMillis {millis : Nat} (bounded : millis ≤ maxMillis) :
    ∃ x, ofInteger millis = some x := by
  have finite : (nearest millis 0).isInf = false :=
    (moderate_nearest (Nat.lt_of_le_of_lt bounded (by decide : maxMillis < 2 ^ 53))).isInf
  simp [ofInteger, finite]

end Number

end GuardedSteps
