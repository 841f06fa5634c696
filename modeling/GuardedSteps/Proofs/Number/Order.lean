import GuardedSteps.Proofs.Number.Difference

/-!
The order of doubles. Two doubles are compared in one way, and what is asked of them is read off the
answer: of any two numbers one is less than the other or both are equal, and the value that is not a
number stands in no order to any double.
-/

namespace GuardedSteps

namespace Number

open Float.Model Float.Model.UnpackedFloat

theorem compare_swap (x y : UnpackedFloat) : y.compare x = (x.compare y).map Ordering.swap := by
  have signs (sign other : Sign) : (compare sign other).swap = compare other sign := by
    cases sign <;> cases other <;> rfl
  have exponents (exponent other : Int) : (compare exponent other).swap = compare other exponent :=
    Std.OrientedCmp.eq_swap.symm
  have mantissas (mantissa other : Nat) : (compare mantissa other).swap = compare other mantissa :=
    Std.OrientedCmp.eq_swap.symm
  rcases x with (_ | _) | _ | _ | ⟨_ | _, mantissa, exponent, positive⟩ <;>
    rcases y with (_ | _) | _ | _ | ⟨_ | _, mantissa', exponent', positive'⟩ <;>
    simp [UnpackedFloat.compare, signs, exponents, mantissas, Ordering.swap_then]

theorem compare_eq_none_iff {x y : UnpackedFloat} :
    x.compare y = none ↔ x.isNaN = true ∨ y.isNaN = true := by
  rcases x with (_ | _) | _ | _ | ⟨_ | _, mantissa, exponent, positive⟩ <;>
    rcases y with (_ | _) | _ | _ | ⟨_ | _, mantissa', exponent', positive'⟩ <;>
    simp [UnpackedFloat.compare, UnpackedFloat.isNaN]

/-! ## The answers -/

theorem float_lt_iff_compare {x y : Float} :
    x < y ↔ x.toModel.unpack.compare y.toModel.unpack = some .lt := by
  rw [float_lt_iff, UnpackedFloat.lt, beq_iff_eq]

theorem float_beq_iff_compare {x y : Float} :
    (x == y) = true ↔ x.toModel.unpack.compare y.toModel.unpack = some .eq := by
  change (x.toModel.unpack.compare y.toModel.unpack == some .eq) = true ↔ _
  rw [beq_iff_eq]

theorem float_gt_iff_compare {x y : Float} :
    y < x ↔ x.toModel.unpack.compare y.toModel.unpack = some .gt := by
  rw [float_lt_iff_compare, compare_swap]
  cases x.toModel.unpack.compare y.toModel.unpack with
  | none => simp
  | some answer => cases answer <;> simp

theorem float_beq_comm (x y : Float) : (x == y) = (y == x) := by
  rw [Bool.eq_iff_iff, float_beq_iff_compare, float_beq_iff_compare, compare_swap]
  cases y.toModel.unpack.compare x.toModel.unpack with
  | none => simp
  | some answer => cases answer <;> simp

theorem isNaN_of_beq {x y : Float} (equal : (x == y) = true) : x.isNaN = false := by
  rw [float_beq_iff_compare] at equal
  rw [Bool.eq_false_iff]
  intro none
  cases equal.symm.trans (compare_eq_none_iff.mpr (.inl none))

theorem float_le_iff_lt_or_beq {x y : Float} : x ≤ y ↔ x < y ∨ (x == y) = true := by
  rw [float_le_iff, float_lt_iff_compare, float_beq_iff_compare, UnpackedFloat.le]
  cases x.toModel.unpack.compare y.toModel.unpack with
  | none => simp
  | some answer => cases answer <;> simp

/-- Of two numbers one is at most the other unless it is greater. -/
theorem float_le_iff_not_lt {x y : Float} (first : x.isNaN = false) (second : y.isNaN = false) :
    x ≤ y ↔ ¬ y < x := by
  rw [float_le_iff_lt_or_beq, float_lt_iff_compare, float_beq_iff_compare, float_gt_iff_compare]
  cases answered : x.toModel.unpack.compare y.toModel.unpack with
  | none =>
      rcases compare_eq_none_iff.mp answered with none | none
      · cases first.symm.trans none
      · cases second.symm.trans none
  | some answer => cases answer <;> simp

theorem float_not_le_of_isNaN {x y : Float} (none : x.isNaN = true ∨ y.isNaN = true) : ¬ x ≤ y := by
  rw [float_le_iff, UnpackedFloat.le, compare_eq_none_iff.mpr none]
  nofun

end Number

end GuardedSteps
