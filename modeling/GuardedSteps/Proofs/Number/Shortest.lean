import GuardedSteps.Proofs.Number.Form
import GuardedSteps.Proofs.Number.Rounding

/-!
The shortest decimal of a double lies around the double, so that it is read as the same double again.
With seventeen digits the steps of a grid of decimals are smaller than the room around any double, so
the search does not go beyond them.
-/

namespace GuardedSteps

namespace Number

/-! ## Scales -/

theorem scale_pos {base : Nat} (some : 0 < base) (power : Int) :
    0 < (scale base power).1 ∧ 0 < (scale base power).2 :=
  ⟨Nat.pow_pos some, Nat.pow_pos some⟩

theorem scale_eq {base : Nat} (some : 0 < base) (power : Int) :
    ((scale base power).1 : ℚ) = base ^ power * (scale base power).2 := by
  have unit : (base : ℚ) ≠ 0 := by exact_mod_cast some.ne'
  simp only [scale, Nat.pow_eq, Nat.cast_pow]
  rw [← zpow_natCast, ← zpow_natCast, ← zpow_add₀ unit]
  congr 1
  omega

/-! ## Grids -/

namespace Grid

theorem between_of_holds {grid : Grid} {multiple : Nat} (holds : grid.holds multiple = true) :
    Between (grid.closed = true) grid.low grid.high (multiple * grid.unit : Nat) := by
  unfold Grid.holds at holds
  split at holds
  · next closed =>
    simp only [Bool.and_eq_true, decide_eq_true_eq] at holds
    exact ⟨by exact_mod_cast holds.1, by exact_mod_cast holds.2, .inl closed⟩
  · simp only [Bool.and_eq_true, decide_eq_true_eq] at holds
    exact ⟨by exact_mod_cast holds.1.le, by exact_mod_cast holds.2.le,
      .inr ⟨by exact_mod_cast holds.1, by exact_mod_cast holds.2⟩⟩

theorem holds_of_between {grid : Grid} {multiple : Nat} (above : grid.low < multiple * grid.unit)
    (below : multiple * grid.unit < grid.high) : grid.holds multiple = true := by
  unfold Grid.holds
  split
  · simp [above.le, below.le]
  · simp [above, below]

theorem not_holds_of_nearest? {grid : Grid} (missed : grid.nearest? = none) :
    grid.holds (grid.value / grid.unit) = false ∧ grid.holds (grid.value / grid.unit + 1) = false := by
  unfold nearest? at missed
  grind

theorem exists_nearest? {grid : Grid} (low : grid.low < grid.value) (high : grid.value < grid.high)
    (positive : 0 < grid.unit) (narrow : grid.low + grid.unit < grid.high) :
    ∃ multiple, grid.nearest? = some multiple := by
  cases found : grid.nearest? with
  | some multiple => exact ⟨multiple, rfl⟩
  | none =>
      rcases not_holds_of_nearest? found with ⟨below, above⟩
      have whole := Nat.div_mul_le_self grid.value grid.unit
      have next : grid.value < (grid.value / grid.unit + 1) * grid.unit := by
        rw [Nat.add_one_mul, Nat.mul_comm]
        exact Nat.lt_mul_div_succ grid.value positive
      have under : grid.value / grid.unit * grid.unit ≤ grid.low := by
        by_contra inside
        cases below.symm.trans (holds_of_between (not_le.mp inside) (whole.trans_lt high))
      have outside : grid.high ≤ (grid.value / grid.unit + 1) * grid.unit := by
        by_contra inside
        cases above.symm.trans (holds_of_between (low.trans next) (not_le.mp inside))
      rw [Nat.add_one_mul] at outside
      omega

end Grid

/-! ## The grid of a double -/

def factor (exponent power : Int) : ℚ := (scale 2 (exponent - 2)).2 * (scale 10 power).2

theorem factor_pos (exponent power : Int) : 0 < factor exponent power := by
  have two := (scale_pos two_pos (exponent - 2)).2
  have ten := (scale_pos (by decide : 0 < 10) power).2
  exact mul_pos (by exact_mod_cast two) (by exact_mod_cast ten)

theorem quarters_mul (quarters : Nat) (exponent power : Int) :
    ((quarters * ((scale 2 (exponent - 2)).1 * (scale 10 power).2) : Nat) : ℚ) =
      quarters / 4 * 2 ^ exponent * factor exponent power := by
  have two := scale_eq two_pos (exponent - 2)
  rw [zpow_sub₀ (by norm_num)] at two
  simp only [Nat.cast_mul, two, factor]
  push_cast
  ring

section

variable {mantissa : Nat} (exponent power : Int)

theorem unit_of (mantissa : Nat) :
    ((Grid.of mantissa exponent power).unit : ℚ) = 10 ^ power * factor exponent power := by
  have ten := scale_eq (by decide : 0 < 10) power
  simp only [Grid.of, Nat.cast_mul, ten, factor]
  push_cast
  ring

theorem value_of (mantissa : Nat) : ((Grid.of mantissa exponent power).value : ℚ) =
    mantissa * 2 ^ exponent * factor exponent power := by
  have whole : ((4 * mantissa : Nat) : ℚ) / 4 = mantissa := by
    push_cast
    ring
  rw [← whole]
  exact quarters_mul (4 * mantissa) exponent power

theorem high_of (mantissa : Nat) : ((Grid.of mantissa exponent power).high : ℚ) =
    (mantissa + 1 / 2) * 2 ^ exponent * factor exponent power := by
  have half : ((4 * mantissa + 2 : Nat) : ℚ) / 4 = mantissa + 1 / 2 := by
    push_cast
    ring
  rw [← half]
  exact quarters_mul (4 * mantissa + 2) exponent power

theorem low_of (positive : 0 < mantissa) : ((Grid.of mantissa exponent power).low : ℚ) =
    (mantissa - quartersBelow mantissa exponent / 4) * 2 ^ exponent * factor exponent power := by
  have less : quartersBelow mantissa exponent ≤ 4 * mantissa := by
    unfold quartersBelow
    split <;> omega
  have part : ((4 * mantissa - quartersBelow mantissa exponent : Nat) : ℚ) / 4 =
      mantissa - quartersBelow mantissa exponent / 4 := by
    rw [Nat.cast_sub less]
    push_cast
    ring
  rw [← part]
  exact quarters_mul (4 * mantissa - quartersBelow mantissa exponent) exponent power

/-- A multiple that is found lies around the double. -/
theorem around_of_nearest? {exponent power : Int} {multiple : Nat} (positive : 0 < mantissa)
    (found : (Grid.of mantissa exponent power).nearest? = some multiple) :
    Around mantissa exponent (multiple * 10 ^ power) := by
  have common := factor_pos exponent power
  have between := (Grid.between_of_holds (Grid.holds_of_nearest? found)).mul (inv_pos.mpr common)
  have even : (Grid.of mantissa exponent power).closed = true ↔ mantissa % 2 = 0 := beq_iff_eq
  rw [Nat.cast_mul, unit_of, high_of, low_of exponent power positive, ← mul_assoc,
    mul_inv_cancel_right₀ common.ne', mul_inv_cancel_right₀ common.ne', mul_inv_cancel_right₀ common.ne',
    even] at between
  exact between

/-- With steps that are small enough a multiple is found: seventeen digits always suffice. -/
theorem exists_nearest?_of {exponent power : Int} (fits : Fits mantissa exponent) (positive : 0 < mantissa)
    (small : (10 : ℚ) ^ (power + 16) ≤ mantissa * 2 ^ exponent) :
    ∃ multiple, (Grid.of mantissa exponent power).nearest? = some multiple := by
  have common := factor_pos exponent power
  have last : (0 : ℚ) < 2 ^ exponent := zpow_pos two_pos exponent
  have reach := quartersBelow_bounds mantissa exponent
  have low := low_of exponent power positive
  have value := value_of exponent power mantissa
  have high := high_of exponent power mantissa
  have unit := unit_of exponent power mantissa
  have step : (10 : ℚ) ^ power < (1 / 2 + quartersBelow mantissa exponent / 4) * 2 ^ exponent := by
    rw [zpow_add₀ (by norm_num), zpow_ofNat] at small
    unfold quartersBelow
    split
    · next least =>
      have half : (mantissa : ℚ) = 2 ^ 52 := by exact_mod_cast least.1
      rw [half] at small
      norm_num at small ⊢
      linarith
    · have short : (mantissa : ℚ) < 2 ^ 53 := by exact_mod_cast fits.1
      have less : (mantissa : ℚ) * 2 ^ exponent < 2 ^ 53 * 2 ^ exponent :=
        mul_lt_mul_of_pos_right short last
      norm_num at small less ⊢
      linarith
  apply Grid.exists_nearest?
  · have less : ((Grid.of mantissa exponent power).low : ℚ) < (Grid.of mantissa exponent power).value := by
      rw [low, value]
      exact mul_lt_mul_of_pos_right (mul_lt_mul_of_pos_right (by linarith) last) common
    exact_mod_cast less
  · have less : ((Grid.of mantissa exponent power).value : ℚ) < (Grid.of mantissa exponent power).high := by
      rw [high, value]
      exact mul_lt_mul_of_pos_right (mul_lt_mul_of_pos_right (by linarith) last) common
    exact_mod_cast less
  · have some : (0 : ℚ) < (Grid.of mantissa exponent power).unit := by
      rw [unit]
      exact mul_pos (zpow_pos (by norm_num) power) common
    exact_mod_cast some
  · have narrow : ((Grid.of mantissa exponent power).low : ℚ) + (Grid.of mantissa exponent power).unit <
        (Grid.of mantissa exponent power).high := by
      rw [low, unit, high, ← add_mul]
      refine mul_lt_mul_of_pos_right ?_ common
      linarith
    exact_mod_cast narrow

end

/-! ## The size of a double -/

theorem above_iff {mantissa : Nat} {exponent power : Int} :
    mantissa * (scale 2 exponent).1 * (scale 10 power).2 < (scale 10 power).1 * (scale 2 exponent).2 ↔
      (mantissa * 2 ^ exponent : ℚ) < 10 ^ power := by
  have two := scale_eq two_pos exponent
  have ten := scale_eq (by decide : 0 < 10) power
  have common : (0 : ℚ) < (scale 2 exponent).2 * (scale 10 power).2 := by
    exact_mod_cast Nat.mul_pos (scale_pos two_pos exponent).2 (scale_pos (by decide : 0 < 10) power).2
  have left : ((mantissa * (scale 2 exponent).1 * (scale 10 power).2 : Nat) : ℚ) =
      mantissa * 2 ^ exponent * ((scale 2 exponent).2 * (scale 10 power).2) := by
    rw [Nat.cast_mul, Nat.cast_mul, two]
    push_cast
    ring
  have right : (((scale 10 power).1 * (scale 2 exponent).2 : Nat) : ℚ) =
      10 ^ power * ((scale 2 exponent).2 * (scale 10 power).2) := by
    rw [Nat.cast_mul, ten]
    push_cast
    ring
  rw [← mul_lt_mul_iff_left₀ common, ← left, ← right, Nat.cast_lt]

theorem ten_zpow_le {tens twos : Nat} {power bits : Int} (some : twos ≠ 0)
    (less : twos * power ≤ tens * bits)
    (compared : ((10 : ℚ) ^ tens) ^ bits ≤ (2 ^ twos) ^ bits) : (10 : ℚ) ^ power ≤ 2 ^ bits := by
  rw [← pow_le_pow_iff_left₀ (zpow_pos (by norm_num) power).le (zpow_pos two_pos bits).le some]
  calc ((10 : ℚ) ^ power) ^ twos = 10 ^ (twos * power) := by rw [mul_comm, zpow_mul, zpow_natCast]
    _ ≤ 10 ^ (tens * bits) := zpow_le_zpow_right₀ (by norm_num) less
    _ = (10 ^ tens) ^ bits := by rw [zpow_mul, zpow_natCast]
    _ ≤ (2 ^ twos) ^ bits := compared
    _ = (2 ^ bits) ^ twos := by rw [← zpow_natCast, ← zpow_natCast, zpow_comm]

/-- The estimate from the binary logarithm is at most one too large. -/
theorem ten_zpow_le_two_zpow {bits : Int} (least : -1074 ≤ bits) (greatest : bits ≤ 1023) :
    (10 : ℚ) ^ (bits * 30103 / 100000 - 1) ≤ 2 ^ bits := by
  rcases le_or_gt 0 bits with nonneg | negative
  · have less : ((196 : Nat) : Int) * (bits * 30103 / 100000 - 1) ≤ (59 : Nat) * bits := by omega
    apply ten_zpow_le (by decide) less
    have compared : (10 : ℚ) ^ 59 ≤ 2 ^ 196 := by exact_mod_cast (by decide +kernel : 10 ^ 59 ≤ 2 ^ 196)
    exact zpow_le_zpow_left₀ nonneg (by positivity) compared
  · have less : ((93 : Nat) : Int) * (bits * 30103 / 100000 - 1) ≤ (28 : Nat) * bits := by omega
    apply ten_zpow_le (by decide) less
    have compared : (2 : ℚ) ^ 93 ≤ 10 ^ 28 := by exact_mod_cast (by decide +kernel : 2 ^ 93 ≤ 10 ^ 28)
    have powers := zpow_le_zpow_left₀ (by omega : 0 ≤ -bits) (by positivity) compared
    have flipped := inv_anti₀ (zpow_pos (by norm_num) (-bits)) powers
    rwa [zpow_neg, zpow_neg, inv_inv, inv_inv] at flipped

theorem ten_zpow_magnitude_le {mantissa : Nat} {exponent : Int} (fits : Fits mantissa exponent)
    (high : exponent ≤ 971) (positive : 0 < mantissa) :
    (10 : ℚ) ^ (magnitude mantissa exponent - 1) ≤ mantissa * 2 ^ exponent := by
  have last : (0 : ℚ) < 2 ^ exponent := zpow_pos two_pos exponent
  have few := (Nat.log2_lt positive.ne').mpr fits.1
  have below : (2 : ℚ) ^ ((mantissa.log2 : Int) + exponent) ≤ mantissa * 2 ^ exponent := by
    rw [zpow_add₀ two_ne_zero, zpow_natCast]
    exact mul_le_mul_of_nonneg_right (by exact_mod_cast Nat.log2_self_le positive.ne') last.le
  have estimate := ten_zpow_le_two_zpow (by have := fits.2.1; omega : -1074 ≤ (mantissa.log2 : Int) + exponent)
    (by omega)
  have reached (power : Int)
      (beyond : ¬ mantissa * (scale 2 exponent).1 * (scale 10 power).2 <
        (scale 10 power).1 * (scale 2 exponent).2) : (10 : ℚ) ^ power ≤ mantissa * 2 ^ exponent := by
    rwa [above_iff, not_lt] at beyond
  simp only [magnitude, decide_eq_true_eq]
  split
  · exact estimate.trans below
  · next first =>
    split
    · rw [add_sub_cancel_right]
      exact reached _ first
    · next second =>
      have same : ((mantissa.log2 + exponent) * 30103 / 100000 + 2 - 1 : Int) =
          (mantissa.log2 + exponent) * 30103 / 100000 + 1 := by omega
      rw [same]
      exact reached _ second

/-! ## The search -/

theorem exists_shortestFrom {mantissa : Nat} {exponent top : Int}
    (last : ∃ multiple, (Grid.of mantissa exponent (top - 17)).nearest? = some multiple) (count : Nat) :
    (Grid.of mantissa exponent (shortestFrom mantissa exponent top (count + 1)).power).nearest? =
      some (shortestFrom mantissa exponent top (count + 1)).digits := by
  induction count with
  | zero =>
      rcases last with ⟨multiple, found⟩
      have power : top - (17 - 0 : Nat) = top - 17 := rfl
      simp only [shortestFrom, power, found]
  | succ count induction =>
      rw [shortestFrom]
      split
      · next found => exact found
      · exact induction

/-- The shortest decimal of a double lies around it. -/
theorem around_shortest {mantissa : Nat} {exponent : Int} (fits : Fits mantissa exponent)
    (high : exponent ≤ 971) (positive : 0 < mantissa) :
    Around mantissa exponent
      ((shortest mantissa exponent).digits * 10 ^ (shortest mantissa exponent).power) := by
  apply around_of_nearest? positive
  apply exists_shortestFrom
  apply exists_nearest?_of fits positive
  have size := ten_zpow_magnitude_le fits high positive
  have same : magnitude mantissa exponent - 17 + 16 = magnitude mantissa exponent - 1 := by omega
  rwa [same]

end Number

end GuardedSteps
