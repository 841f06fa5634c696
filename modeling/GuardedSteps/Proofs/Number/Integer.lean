import GuardedSteps.Proofs.Number.Doubles

/-!
Whole numbers as doubles. A whole number that does not lie beyond all doubles is some double other than
the value that is not a number, and has few enough digits to be written.
-/

namespace GuardedSteps

namespace Number

open Float.Model Float.Model.UnpackedFloat

/-! ## Doubles that are numbers -/

theorem Moderate.isNaN {bits : Nat} {top : Int} {x : UnpackedFloat} (moderate : Moderate bits top x) :
    x.isNaN = false := by
  cases x with
  | notANumber => exact moderate.elim
  | infinity => rfl
  | zero => rfl
  | finite => rfl

theorem isNaN_unpack {bits : BitVec Format.binary64.numBits}
    (number : unpackExponent bits ≠ -1#_ ∨ unpackMantissa bits = 0#_) :
    (UnpackedFloat.unpack Format.binary64 bits).isNaN = false := by
  simp only [UnpackedFloat.unpack]
  split
  · next full =>
    split
    · rfl
    · next filled =>
      rcases number with other | empty
      · exact absurd full other
      · exact absurd empty filled
  · split
    · split <;> rfl
    · rfl

/-- Packing makes an infinity of what is too large, but keeps numbers apart from what is none. -/
theorem isNaN_unpack_pack {x : UnpackedFloat} (number : x.isNaN = false) :
    (Float.Model.pack x).unpack.isNaN = false := by
  have least (sign : Sign) (mantissa : BitVec Format.binary64.mantissaBitsWithoutImplicit) :
      (UnpackedFloat.unpack Format.binary64 (packComponents _ sign 0#_ mantissa)).isNaN = false := by
    refine isNaN_unpack (.inl ?_)
    rw [unpackExponent_packComponents]
    decide
  have infinite (sign : Sign) :
      (UnpackedFloat.unpack Format.binary64 (packedInfinity _ sign)).isNaN = false :=
    isNaN_unpack (.inr unpackMantissa_packComponents)
  change (UnpackedFloat.unpack Format.binary64 (UnpackedFloat.pack Format.binary64 x)).isNaN = false
  cases x with
  | notANumber => cases number
  | infinity sign => exact infinite sign
  | zero sign => exact least sign 0
  | finite sign mantissa exponent positive =>
      simp only [UnpackedFloat.pack]
      split
      · exact infinite sign
      · next fits =>
        split
        · refine isNaN_unpack (.inl ?_)
          rw [unpackExponent_packComponents]
          intro full
          have full := congrArg BitVec.toNat full
          have last : (-1#_ : BitVec Format.binary64.exponentBits).toNat = 2047 := by decide
          rw [BitVec.toNat_ofNat, last] at full
          change ¬ 2 ^ 11 ≤ _ at fits
          change _ % 2 ^ 11 = 2047 at full
          omega
        · exact least sign _

theorem isNaN_roundWithAccuracy (sign : Sign) (mantissa : Nat) (exponent : Int) (accuracy : Accuracy) :
    (roundWithAccuracy Format.binary64 sign mantissa exponent accuracy).isNaN = false := by
  simp only [roundWithAccuracy]
  split
  · rfl
  · rfl

theorem isNaN_ofScientific (mantissa : Nat) :
    (UnpackedFloat.ofScientific Format.binary64 mantissa 0).isNaN = false := by
  simp only [UnpackedFloat.ofScientific]
  split
  · rfl
  · split
    · rfl
    · split
      · rfl
      · rw [if_pos (Int.le_refl 0), UnpackedFloat.mul, isNaN_roundWithAccuracy]

theorem isNaN_neg {x : Float} (number : x.isNaN = false) : (-x).isNaN = false := by
  refine isNaN_unpack_pack (x := x.toModel.unpack.neg) ?_
  change x.toModel.unpack.isNaN = false at number
  cases unpacked : x.toModel.unpack with
  | notANumber =>
      rw [unpacked] at number
      cases number
  | _ => rfl

/-! ## Whole numbers -/

theorem isNaN_nearest (value : Nat) : (nearest value 0).isNaN = false := by
  by_cases small : value < 2 ^ 53
  · exact (moderate_nearest small).isNaN
  · simp only [nearest]
    split
    · rfl
    · split
      · rfl
      · unfold Float.ofScientific
        split
        · next short => exact absurd short.1 small
        · exact isNaN_unpack_pack (isNaN_ofScientific _)

theorem isNaN_of_ofInteger {value : Int} {x : Float} (found : ofInteger value = some x) :
    x.isNaN = false := by
  unfold ofInteger at found
  simp only at found
  split at found
  · cases found
  · cases found
    split
    · exact isNaN_neg (isNaN_nearest _)
    · exact isNaN_nearest _

theorem lt_of_length_digitChars_le {value limit : Nat} (some : 0 < limit)
    (short : (digitChars value).length ≤ limit) : value < Nat.pow 10 limit := by
  rwa [digitChars, Nat.toList_repr, Nat.length_toDigits_le_iff (by decide) some] at short

theorem length_digitChars_le_of_ofInteger {value : Int} {x : Float} (found : ofInteger value = some x) :
    (digitChars value.natAbs).length ≤ 310 := by
  have finite : (nearest value.natAbs 0).isInf = false := by
    rw [Bool.eq_false_iff]
    intro infinite
    simp [ofInteger, infinite] at found
  by_cases zero : value.natAbs = 0
  · rw [zero]
    decide
  · by_contra long
    have large : ¬ ((digitChars value.natAbs).length : Int) + 0 < -330 := by omega
    have beyond : 310 < ((digitChars value.natAbs).length : Int) + 0 := by omega
    simp only [nearest, zero, large, beyond, or_self, if_false, if_true] at finite
    cases finite

theorem isWritable_of_ofInteger {value : Int} {x : Float} (found : ofInteger value = some x) :
    isWritable value = true := by
  have short := length_digitChars_le_of_ofInteger found
  exact decide_eq_true (lt_of_length_digitChars_le (by decide) (Nat.le_trans short (by decide)))

end Number

end GuardedSteps
