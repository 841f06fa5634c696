import GuardedSteps.Proofs.Number.Positive
import Mathlib.Data.Prod.Lex

/-!
Differences of doubles. A double that is taken from a greater one leaves more than zero: rounding may
change the difference but cannot lose it, since it is never less than the least positive double. So a
clock of seconds is not at its deadline before its reading is.
-/

namespace GuardedSteps

namespace Number

open Float.Model Float.Model.UnpackedFloat

/-! ## Order -/

/-- The place of a double among all others. Its sign comes first, together with whether it is infinite,
then the exponent, and then the mantissa. -/
def rank : UnpackedFloat → Int ×ₗ Int ×ₗ Int
  | .infinity .negative => toLex (-2, toLex (0, 0))
  | .finite .negative mantissa exponent _ => toLex (-1, toLex (-exponent, -(mantissa : Int)))
  | .notANumber | .zero _ => toLex (0, toLex (0, 0))
  | .finite .positive mantissa exponent _ => toLex (1, toLex (exponent, (mantissa : Int)))
  | .infinity .positive => toLex (2, toLex (0, 0))

theorem lt_iff_rank {x y : UnpackedFloat} :
    x.lt y = true ↔ x ≠ .notANumber ∧ y ≠ .notANumber ∧ rank x < rank y := by
  have signs (sign other : Sign) : compare sign other = .lt ↔ sign = .negative ∧ other = .positive := by
    cases sign <;> cases other <;> simp [compare]
  have ahead (exponent other : Int) (mantissa mantissa' : Nat) :
      (compare exponent other).then (compare mantissa mantissa') = .lt ↔
        exponent < other ∨ exponent = other ∧ mantissa < mantissa' := by
    rw [Ordering.then_eq_lt, Int.compare_eq_lt, Int.compare_eq_eq, Nat.compare_eq_lt]
  have behind (exponent other : Int) (mantissa mantissa' : Nat) :
      ((compare exponent other).then (compare mantissa mantissa')).swap = .lt ↔
        other < exponent ∨ exponent = other ∧ mantissa' < mantissa := by
    rw [Ordering.swap_eq_lt, Ordering.then_eq_gt, Int.compare_eq_gt, Int.compare_eq_eq,
      Nat.compare_eq_gt]
  rcases x with (_ | _) | _ | _ | ⟨_ | _, mantissa, exponent, positive⟩ <;>
    rcases y with (_ | _) | _ | _ | ⟨_ | _, mantissa', exponent', positive'⟩ <;>
    simp [UnpackedFloat.lt, UnpackedFloat.compare, rank, Prod.Lex.toLex_lt_toLex, signs, ahead, behind]

theorem lt_of_lt_of_not_lt {x y z : UnpackedFloat} (less : x.lt y = true) (number : z ≠ .notANumber)
    (limit : z.lt y = false) : x.lt z = true := by
  rcases lt_iff_rank.mp less with ⟨first, second, before⟩
  have behind : rank y ≤ rank z := by
    rw [← not_lt]
    intro ahead
    cases limit.symm.trans (lt_iff_rank.mpr ⟨number, second, ahead⟩)
  exact lt_iff_rank.mpr ⟨first, number, lt_of_lt_of_le before behind⟩

/-! ## Doubles as they are unpacked -/

def Canonical : UnpackedFloat → Prop
  | .finite _ mantissa exponent _ =>
    mantissa < 2 ^ 53 ∧ -1074 ≤ exponent ∧ (exponent = -1074 ∨ 2 ^ 52 ≤ mantissa)
  | .infinity _ | .notANumber | .zero _ => True

theorem canonical_unpack (bits : BitVec Format.binary64.numBits) :
    Canonical (UnpackedFloat.unpack Format.binary64 bits) := by
  have bias : (Format.binary64.exponentBias : Int) = 1023 := by decide
  simp only [UnpackedFloat.unpack, bias]
  split
  · split <;> trivial
  · split
    · next empty =>
      split
      · trivial
      · have field : (unpackExponent bits).toNat = 0 := congrArg BitVec.toNat empty
        refine ⟨Nat.lt_trans (BitVec.isLt _) (by decide), ?_⟩
        omega
    · next nonempty =>
      have field : 0 < (unpackExponent bits).toNat := by
        rw [BitVec.toNat_pos, BitVec.pos_iff_ne_zero]
        exact nonempty
      have full : 2 ^ 52 ≤ (1#1 ++ unpackMantissa bits).toNat := by
        rw [BitVec.toNat_append]
        exact Nat.le_trans (by decide) Nat.left_le_or
      exact ⟨BitVec.isLt _, by omega, .inr full⟩

/-- Counted in units of the lesser exponent, the mantissa of a lesser double is the lesser one. -/
theorem aligned_lt {mantissa mantissa' : Nat} {exponent exponent' : Int} (short : mantissa < 2 ^ 53)
    (range : -1074 ≤ exponent) (full : exponent' = -1074 ∨ 2 ^ 52 ≤ mantissa')
    (before : exponent < exponent' ∨ exponent = exponent' ∧ mantissa < mantissa') :
    mantissa <<< (exponent - min exponent exponent').toNat <
      mantissa' <<< (exponent' - min exponent exponent').toNat := by
  rcases before with below | ⟨rfl, less⟩
  · have least : (exponent - min exponent exponent').toNat = 0 := by omega
    have further : 1 ≤ (exponent' - min exponent exponent').toNat := by omega
    rw [least, Nat.shiftLeft_zero, Nat.shiftLeft_eq]
    calc mantissa < 2 ^ 52 * 2 ^ 1 := short
      _ ≤ mantissa' * 2 ^ (exponent' - min exponent exponent').toNat :=
        Nat.mul_le_mul (full.resolve_left (by omega)) (Nat.pow_le_pow_right (by decide) further)
  · simpa using less

/-! ## Positive doubles -/

/-- A double that is more than zero, with a mantissa that is not too long and no lesser exponent than
there is, or infinite. -/
def Positive : UnpackedFloat → Prop
  | .finite .positive mantissa exponent _ => mantissa < 2 ^ 53 ∧ -1074 ≤ exponent
  | .infinity .positive => True
  | _ => False

theorem shiftToTargetExponent_positive {mantissa : Nat} {exponent : Int} (accuracy : Accuracy)
    (some : 0 < mantissa) (range : -1074 ≤ exponent) :
    let shifted := shiftToTargetExponent Format.binary64 mantissa exponent accuracy
    0 < shifted.1.mantissa ∧ shifted.1.mantissa < 2 ^ 53 ∧ -1074 ≤ shifted.2 := by
  have least := Nat.log2_self_le (Nat.ne_of_gt some)
  have bound : mantissa < 2 ^ (mantissa.log2 + 1) := Nat.lt_log2_self
  simp only [shiftToTargetExponent, shiftToExponent, mantissa_shiftRight, mantissa_ofMantissaAndAccuracy]
  generalize amount :
    (Format.binary64.targetExponent (totalExponent mantissa exponent) - exponent).toNat = shift
  rw [targetExponent_eq, totalExponent] at amount
  refine ⟨?_, ?_, ?_⟩
  · apply Nat.div_pos (Nat.le_trans _ least) (Nat.two_pow_pos _)
    exact Nat.pow_le_pow_right (by decide) (by omega)
  · rw [Nat.div_lt_iff_lt_mul (Nat.two_pow_pos _), ← Nat.pow_add]
    exact Nat.lt_of_lt_of_le bound (Nat.pow_le_pow_right (by decide) (by omega))
  · omega

theorem positive_roundWithAccuracy {mantissa : Nat} {exponent : Int} (accuracy : Accuracy)
    (some : 0 < mantissa) (range : -1074 ≤ exponent) :
    Positive (roundWithAccuracy Format.binary64 .positive mantissa exponent accuracy) := by
  rcases shiftToTargetExponent_positive accuracy some range with ⟨more, -, above⟩
  rcases shiftToTargetExponent_positive .exact (Nat.lt_of_lt_of_le more (le_roundedMantissa _)) above
    with ⟨final, short, last⟩
  simp only [roundWithAccuracy]
  split
  · next zero => exact absurd zero (Nat.ne_of_gt final)
  · exact ⟨short, last⟩

theorem positive_normalize {value exponent : Int} (zeroSign : Sign) (some : 0 < value)
    (range : -1074 ≤ exponent) :
    Positive (UnpackedFloat.normalize Format.binary64 value exponent zeroSign) := by
  have positive : compare value 0 = .gt := Int.compare_eq_gt.mpr some
  simp only [UnpackedFloat.normalize, positive, UnpackedFloat.round, decreaseExponent]
  apply positive_roundWithAccuracy
  · rw [Nat.shiftLeft_eq]
    exact Nat.mul_pos (by omega) (Nat.two_pow_pos _)
  · rw [targetExponent_eq]
    omega

theorem aligned_sub_pos {sign sign' : Sign} {mantissa mantissa' : Nat} {exponent exponent' : Int}
    {some : 0 < mantissa} {some' : 0 < mantissa'} (first : Canonical (.finite sign mantissa exponent some))
    (second : Canonical (.finite sign' mantissa' exponent' some'))
    (less : (UnpackedFloat.finite sign mantissa exponent some).lt
      (.finite sign' mantissa' exponent' some') = true) :
    0 < sign'.apply (mantissa' <<< (exponent' - min exponent' exponent).toNat : Nat) -
      sign.apply (mantissa <<< (exponent - min exponent' exponent).toNat : Nat) := by
  rcases first with ⟨short, range, full⟩
  rcases second with ⟨short', range', full'⟩
  rw [lt_iff_rank] at less
  cases sign <;> cases sign' <;>
    simp only [rank, Prod.Lex.toLex_lt_toLex, Sign.apply] at less ⊢
  · have aligned := aligned_lt short' range' full (by omega)
    omega
  · have more : 0 < mantissa' <<< (exponent' - min exponent' exponent).toNat := by
      rw [Nat.shiftLeft_eq]
      exact Nat.mul_pos some' (Nat.two_pow_pos _)
    rw [Int.sub_neg]
    exact Int.add_pos_of_pos_of_nonneg (Int.natCast_pos.mpr more) (Int.natCast_nonneg _)
  · omega
  · have aligned := aligned_lt short range full' (by omega)
    rw [min_comm] at aligned
    omega

theorem sub_of_notANumber (x : UnpackedFloat) :
    UnpackedFloat.sub Format.binary64 .notANumber x = .notANumber := by
  cases x <;> rfl

/-- What is taken from a greater double leaves a positive one. -/
theorem positive_sub {x y : UnpackedFloat} (first : Canonical x) (second : Canonical y)
    (less : x.lt y = true) : Positive (UnpackedFloat.sub Format.binary64 y x) := by
  cases x with
  | notANumber => cases less
  | infinity sign =>
      cases sign with
      | positive => rcases y with (_ | _) | _ | _ | ⟨_ | _, _⟩ <;> cases less
      | negative =>
        cases y with
        | infinity other =>
            cases other with
            | negative => cases less
            | positive => trivial
        | notANumber => cases less
        | zero => trivial
        | finite => trivial
  | zero sign =>
    cases y with
    | infinity other =>
        cases other with
        | negative => cases less
        | positive => trivial
    | notANumber => cases less
    | zero => cases less
    | finite other mantissa exponent some =>
        cases other with
        | negative => cases less
        | positive => exact ⟨second.1, second.2.1⟩
  | finite sign mantissa exponent some =>
    cases y with
    | infinity other =>
        cases other with
        | negative => cases sign <;> cases less
        | positive => trivial
    | notANumber => cases less
    | zero =>
        cases sign with
        | negative => exact ⟨first.1, first.2.1⟩
        | positive => cases less
    | finite other mantissa' exponent' some' =>
        have range : -1074 ≤ min exponent' exponent := le_min second.2.1 first.2.1
        exact positive_normalize .positive (aligned_sub_pos first second less) range

theorem not_le_zero_of_packComponents {exponent : BitVec 11} {mantissa : BitVec 52}
    (some : exponent = 0#11 → mantissa ≠ 0#52) :
    (UnpackedFloat.unpack Format.binary64
      (packComponents Format.binary64 .positive exponent mantissa)).le (.zero .positive) = false := by
  have sign : Sign.ofBitVec Sign.positive.toBitVec = .positive := rfl
  simp only [UnpackedFloat.unpack, unpackExponent_packComponents, unpackMantissa_packComponents,
    unpackSign_packComponents, sign]
  split
  · split <;> rfl
  · split
    · next empty =>
      rw [dif_neg (some empty)]
      rfl
    · rfl

theorem not_le_zero_of_positive {x : UnpackedFloat} (positive : Positive x) :
    (Float.Model.pack x).unpack.le (.zero .positive) = false := by
  cases x with
  | infinity sign =>
      cases sign with
      | negative => exact positive.elim
      | positive => rfl
  | notANumber => rfl
  | zero => exact positive.elim
  | finite sign mantissa exponent some =>
      cases sign with
      | negative => exact positive.elim
      | positive =>
          rcases positive with ⟨short, range⟩
          change (UnpackedFloat.unpack Format.binary64 (UnpackedFloat.pack Format.binary64
            (.finite .positive mantissa exponent some))).le (.zero .positive) = false
          have bias : (Format.binary64.exponentBias : Int) = 1023 := by decide
          have bits : Format.binary64.mantissaBits = 53 := rfl
          simp only [UnpackedFloat.pack, bias, bits]
          split
          · exact not_le_zero_of_packComponents nofun
          · next fits =>
            split
            · apply not_le_zero_of_packComponents
              intro empty
              have field := congrArg BitVec.toNat empty
              rw [BitVec.toNat_ofNat, Nat.mod_eq_of_lt (by omega)] at field
              change _ = 0 at field
              omega
            · next subnormal =>
              apply not_le_zero_of_packComponents
              intro _ empty
              have few := (Nat.log2_lt (by omega)).mpr short
              have small := (Nat.log2_lt (by omega)).mp (by omega : mantissa.log2 < 52)
              have field := congrArg BitVec.toNat empty
              rw [BitVec.toNat_ofNat, Nat.mod_eq_of_lt small] at field
              exact Nat.ne_of_gt some field

/-! ## Readings -/

theorem float_lt_iff (x y : Float) : x < y ↔ x.toModel.unpack.lt y.toModel.unpack = true := by
  change decide (x.toModel.unpack.lt y.toModel.unpack = true) = true ↔ _
  exact decide_eq_true_iff

end Number

instance : ClockTime.Timely Float where
  early := by
    intro reading switch deadline before ahead
    have less : reading.toModel.unpack.lt switch.toModel.unpack = true :=
      (Number.float_lt_iff _ _).mp (of_decide_eq_true before)
    have limit : deadline.toModel.unpack.lt switch.toModel.unpack = false := by
      rw [Bool.eq_false_iff]
      exact fun greater => of_decide_eq_false ahead ((Number.float_lt_iff _ _).mpr greater)
    apply decide_eq_false
    rw [Number.float_le_iff]
    change ¬ (Float.Model.pack (Float.Model.UnpackedFloat.sub Float.Model.Format.binary64
      deadline.toModel.unpack reading.toModel.unpack)).unpack.le (.zero .positive) = true
    rw [Bool.not_eq_true]
    by_cases number : deadline.toModel.unpack = .notANumber
    · rw [number, Number.sub_of_notANumber]
      rfl
    · apply Number.not_le_zero_of_positive
      exact Number.positive_sub (Number.canonical_unpack _) (Number.canonical_unpack _)
        (Number.lt_of_lt_of_not_lt less number limit)

end GuardedSteps
