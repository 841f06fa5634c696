import GuardedSteps.Proofs.Number.Nearest
import GuardedSteps.Proofs.Number.Shortest

/-!
Numbers that are read back. The text of a whole number is read as the double nearest to the number, and
the text of a double is read as the double itself.
-/

namespace GuardedSteps

namespace Number

open Text Float.Model Float.Model.UnpackedFloat

/-! ## Values of digits -/

theorem foldl_digits (row : List Char) (start : Nat) :
    row.foldl (fun value c => 10 * value + (digitValue? c).getD 0) start =
      start * 10 ^ row.length + digitsValue row := by
  induction row generalizing start with
  | nil => simp [digitsValue]
  | cons c rest induction =>
      have own := induction ((digitValue? c).getD 0)
      rw [digitsValue, List.foldl_cons, List.foldl_cons, induction, Nat.mul_zero, Nat.zero_add, own,
        List.length_cons, pow_succ]
      ring

theorem digitsValue_append (row other : List Char) :
    digitsValue (row ++ other) = digitsValue row * 10 ^ other.length + digitsValue other := by
  rw [digitsValue, List.foldl_append, foldl_digits]
  rfl

theorem digitsValue_append_zeros (row : List Char) (count : Nat) :
    digitsValue (row ++ List.replicate count '0') = digitsValue row * 10 ^ count := by
  rw [digitsValue_append, digitsValue_replicate, List.length_replicate, Nat.add_zero]

theorem digitsValue_zeros_append (count : Nat) (row : List Char) :
    digitsValue (List.replicate count '0' ++ row) = digitsValue row := by
  rw [digitsValue_append, digitsValue_replicate, Nat.zero_mul, Nat.zero_add]

theorem digitsValue_significant (row : List Char) :
    (significant row).length ≤ row.length ∧ digitsValue row =
      digitsValue (significant row) * 10 ^ (row.length - (significant row).length) := by
  have split : row = significant row ++ (row.reverse.takeWhile (· == '0')).reverse := by
    rw [significant, ← List.reverse_append, List.takeWhile_append_dropWhile, List.reverse_reverse]
  have zeros : ∀ c ∈ (row.reverse.takeWhile (· == '0')).reverse, c = '0' := by
    intro c member
    have zero := List.all_eq_true.mp List.all_takeWhile c (List.mem_reverse.mp member)
    simpa using zero
  generalize (row.reverse.takeWhile (· == '0')).reverse = rest at split zeros
  have length : row.length = (significant row).length + rest.length := by
    conv_lhs => rw [split]
    exact List.length_append
  refine ⟨by omega, ?_⟩
  conv_lhs => rw [split]
  rw [List.eq_replicate_of_mem zeros, digitsValue_append_zeros]
  congr 2
  omega

/-! ## Decimals that are read -/

/-- A text without a sign is read as the double nearest to a number. -/
def Writes (cs : List Char) (number : ℚ) : Prop :=
  ∃ digits power, readDecimal cs = some (nearest digits power) ∧ (digits * 10 ^ power : ℚ) = number

section

variable {whole fraction tail : List Char} {power : Int} (nonempty : whole ≠ []) (all : AllDigits whole)
  (back : exponentPart tail = some power) (ends : EndsDigits tail)

include nonempty all back ends

theorem writes_point (more : AllDigits fraction) :
    Writes (whole ++ '.' :: (fraction ++ tail))
      (digitsValue (whole ++ fraction) * 10 ^ (power - fraction.length)) := by
  have pointed : EndsDigits ('.' :: (fraction ++ tail)) := by
    intro c first
    cases first
    decide
  have front := digitRow_append all pointed
  have middle : fractionPart ('.' :: (fraction ++ tail)) = (fraction, tail) := digitRow_append more ends
  exact ⟨_, _, by simp [readDecimal, front, middle, back, nonempty], rfl⟩

theorem readDecimal_whole (pointless : fractionPart tail = ([], tail)) :
    readDecimal (whole ++ tail) = some (nearest (digitsValue whole) power) := by
  have front := digitRow_append all ends
  simp [readDecimal, front, pointless, back, nonempty]

end

theorem exponentPart_nil : exponentPart [] = some 0 := rfl

theorem writes_positional {row : List Char} (all : AllDigits row) (point : Int) :
    Writes (positional layout row point).toList (digitsValue row * 10 ^ (point - row.length)) := by
  unfold positional
  split
  · next behind =>
    have zeros := allDigits_replicate (-point).toNat
    have written := writes_point (List.cons_ne_nil '0' []) (allDigits_replicate 1) exponentPart_nil nofun
      (zeros.append all)
    have digits : digitsValue (['0'] ++ (List.replicate (-point).toNat '0' ++ row)) = digitsValue row := by
      rw [← List.append_assoc]
      exact digitsValue_zeros_append ((-point).toNat + 1) row
    have power : (0 - (List.replicate (-point).toNat '0' ++ row).length : Int) = point - row.length := by
      rw [List.length_append, List.length_replicate]
      omega
    rw [digits, power] at written
    simpa using written
  · next before =>
    have nonempty : row.take point.toNat ++ List.replicate (point.toNat - row.length) '0' ≠ [] := by
      apply List.ne_nil_of_length_pos
      simp only [List.length_append, List.length_take, List.length_replicate]
      omega
    have whole := (all.sublist (List.take_sublist point.toNat row)).append
      (allDigits_replicate (point.toNat - row.length))
    by_cases short : row.length ≤ point.toNat
    · have written := writes_point nonempty whole exponentPart_nil nofun (allDigits_replicate 1)
      have rest : row.drop point.toNat = [] := List.drop_eq_nil_of_le short
      have digits : digitsValue (row ++ List.replicate (point.toNat - row.length) '0' ++
          List.replicate 1 '0') = digitsValue row * 10 ^ (point.toNat - row.length + 1) := by
        rw [List.append_assoc, List.replicate_append_replicate, digitsValue_append_zeros]
      have number : ((digitsValue row * 10 ^ (point.toNat - row.length + 1) : Nat) : ℚ) *
          10 ^ (0 - (List.replicate 1 '0').length : Int) = digitsValue row * 10 ^ (point - row.length) := by
        have power : ((point.toNat - row.length + 1 : Nat) : Int) + (0 - (List.replicate 1 '0').length) =
            point - row.length := by
          rw [List.length_replicate]
          omega
        rw [Nat.cast_mul, Nat.cast_pow, Nat.cast_ofNat, ← zpow_natCast, mul_assoc,
          ← zpow_add₀ (by norm_num), power]
      rw [List.take_of_length_le short, digits, number] at written
      have mark : layout.wholeMark.toList = ['.', '0'] := rfl
      rw [List.take_of_length_le short, rest]
      simpa [mark] using written
    · have written := writes_point nonempty whole exponentPart_nil nofun
        (all.sublist (List.drop_sublist point.toNat row))
      have whole : point.toNat - row.length = 0 := by omega
      have rest : row.drop point.toNat ≠ [] := by
        rw [ne_eq, List.drop_eq_nil_iff]
        exact short
      have power : (0 - (row.drop point.toNat).length : Int) = point - row.length := by
        rw [List.length_drop]
        omega
      rw [whole, List.replicate_zero, List.append_nil, List.take_append_drop, power] at written
      rw [whole]
      simpa [rest] using written

theorem exponentPart_padded (negative : Bool) (width value : Nat) :
    exponentPart ('e' :: (if negative then '-' else '+') :: padded width (digitChars value)) =
      some (if negative then -(value : Int) else value) := by
  have digits : AllDigits (padded width (digitChars value)) :=
    (allDigits_replicate _).append (allDigits_digitChars value)
  have read := digitRow_self digits
  have own : digitsValue (padded width (digitChars value)) = value := by
    rw [padded, digitsValue_zeros_append, digitsValue_digitChars]
  rcases List.exists_cons_of_ne_nil (by simp [padded, digitChars_ne_nil] :
    padded width (digitChars value) ≠ []) with ⟨first, rest, shape⟩
  rw [shape] at read own ⊢
  cases negative <;> simp [exponentPart, splitSign, read, own]

theorem writes_scientific {row : List Char} (nonempty : row ≠ []) (all : AllDigits row) (point : Int) :
    Writes (scientific layout row point).toList (digitsValue row * 10 ^ (point - row.length)) := by
  have first : row.take 1 ≠ [] := by simp [nonempty]
  have whole := all.sublist (List.take_sublist 1 row)
  have back := exponentPart_padded (decide (point - 1 < 0)) layout.exponentDigits (point - 1).natAbs
  have ends : EndsDigits ('e' :: (if decide (point - 1 < 0) = true then '-' else '+') ::
      padded layout.exponentDigits (digitChars (point - 1).natAbs)) := by
    intro c first
    cases first
    decide
  have signed : (if decide (point - 1 < 0) = true then -((point - 1).natAbs : Int)
      else (point - 1).natAbs) = point - 1 := by
    split <;> next sign =>
      rw [decide_eq_true_eq] at sign
      omega
  rw [signed] at back
  have mark : (if point < 1 then "-" else "+").toList = [if point < 1 then '-' else '+'] := by
    split <;> rfl
  have some : 0 < row.length := List.length_pos_iff.mpr nonempty
  unfold scientific
  by_cases single : row.drop 1 = []
  · have written : Writes _ (digitsValue (row.take 1) * 10 ^ (point - 1)) :=
      ⟨_, _, readDecimal_whole first whole back ends rfl, rfl⟩
    have length : row.length = 1 := by
      have few := List.drop_eq_nil_iff.mp single
      omega
    rw [List.take_of_length_le length.le] at written ⊢
    rw [length, single]
    simpa [mark] using written
  · have written := writes_point first whole back ends (all.sublist (List.drop_sublist 1 row))
    have more : row.tail ≠ [] := by rwa [← List.drop_one]
    have power : (point - 1 - (row.drop 1).length : Int) = point - row.length := by
      rw [List.length_drop]
      omega
    rw [List.take_append_drop, power] at written
    simpa [mark, more] using written

theorem writes_decimalText {decimal : Decimal} (nonzero : decimal.digits ≠ 0) :
    Writes (decimalText layout decimal).toList (decimal.digits * 10 ^ decimal.power) := by
  rcases digitsValue_significant (digitChars decimal.digits) with ⟨shorter, value⟩
  rw [digitsValue_digitChars] at value
  have all := allDigits_significant (allDigits_digitChars decimal.digits)
  have number (point : Int) (same : point = (digitChars decimal.digits).length + decimal.power) :
      (digitsValue (significant (digitChars decimal.digits)) *
        10 ^ (point - (significant (digitChars decimal.digits)).length) : ℚ) =
      decimal.digits * 10 ^ decimal.power := by
    have power : point - (significant (digitChars decimal.digits)).length =
        (((digitChars decimal.digits).length - (significant (digitChars decimal.digits)).length : Nat) : Int) +
          decimal.power := by omega
    rw [power, zpow_add₀ (by norm_num), zpow_natCast, ← mul_assoc]
    congr 1
    exact_mod_cast value.symm
  unfold decimalText
  simp only
  split
  · rw [← number _ rfl]
    exact writes_positional all _
  · rw [← number _ rfl]
    exact writes_scientific (significant_digitChars nonzero) all _

/-! ## The parts of a double -/

def isNegative : Sign → Bool
  | .negative => true
  | .positive => false

def Double.ofUnpacked : UnpackedFloat → Double
  | .notANumber => .notANumber
  | .infinity sign => .infinite (isNegative sign)
  | .zero sign => .finite (isNegative sign) 0 (-1074)
  | .finite sign mantissa exponent _ => .finite (isNegative sign) mantissa exponent

theorem toNat_unpackExponent (bits : BitVec Format.binary64.numBits) :
    (unpackExponent bits).toNat = bits.toNat / Nat.pow 2 52 % 2048 := by
  change (BitVec.extractLsb' 52 11 bits).toNat = _
  rw [BitVec.extractLsb'_toNat, Nat.shiftRight_eq_div_pow]

theorem toNat_unpackMantissa (bits : BitVec Format.binary64.numBits) :
    (unpackMantissa bits).toNat = bits.toNat % Nat.pow 2 52 := by
  change (BitVec.extractLsb' 0 52 bits).toNat = _
  rw [BitVec.extractLsb'_toNat]
  rfl

theorem isNegative_unpackSign (bits : BitVec Format.binary64.numBits) :
    isNegative (Sign.ofBitVec (unpackSign bits)) = (bits.toNat / Nat.pow 2 63 == 1) := by
  have least : bits.toNat / Nat.pow 2 63 < 2 := Nat.div_lt_of_lt_mul bits.isLt
  have value : (unpackSign bits).toNat = bits.toNat / Nat.pow 2 63 := by
    change (BitVec.extractLsb' 63 1 bits).toNat = _
    rw [BitVec.extractLsb'_toNat, Nat.shiftRight_eq_div_pow, Nat.mod_eq_of_lt least]
  rw [← value, Sign.ofBitVec]
  split
  · next plus =>
    rw [plus]
    rfl
  · next minus =>
    have one : (unpackSign bits).toNat = 1 := by
      have some : (unpackSign bits).toNat ≠ 0 := fun zero => minus (BitVec.eq_of_toNat_eq zero)
      omega
    rw [one]
    rfl

theorem ofFields_eq_ofUnpacked (bits : BitVec Format.binary64.numBits) :
    Double.ofFields (isNegative (Sign.ofBitVec (unpackSign bits))) (unpackExponent bits).toNat
      (unpackMantissa bits).toNat = .ofUnpacked (UnpackedFloat.unpack Format.binary64 bits) := by
  have bias : (Format.binary64.exponentBias : Int) = 1023 := by decide
  have full : unpackExponent bits = -1#11 ↔ (unpackExponent bits).toNat = 2047 := BitVec.toNat_inj.symm
  have empty : unpackExponent bits = 0#11 ↔ (unpackExponent bits).toNat = 0 := BitVec.toNat_inj.symm
  have whole : unpackMantissa bits = 0#52 ↔ (unpackMantissa bits).toNat = 0 := BitVec.toNat_inj.symm
  simp only [UnpackedFloat.unpack, Double.ofFields, bias, full, empty, whole]
  split
  · split <;> rfl
  · split
    · next least =>
      split
      · next zero => simp only [Double.ofUnpacked, zero]
      · simp only [Double.ofUnpacked, least]
        rfl
    · simp only [Double.ofUnpacked, toNat_one_append, Nat.pow_eq, Double.finite.injEq, true_and]
      omega

theorem ofFloat_eq_ofUnpacked (x : Float) : Double.ofFloat x = .ofUnpacked x.toModel.unpack := by
  have fields := ofFields_eq_ofUnpacked x.toBits.toBitVec
  rw [isNegative_unpackSign, toNat_unpackExponent, toNat_unpackMantissa] at fields
  exact fields

theorem fits_of_unpack {bits : BitVec Format.binary64.numBits} {sign : Sign} {mantissa : Nat}
    {exponent : Int} {positive : 0 < mantissa}
    (unpacked : UnpackedFloat.unpack Format.binary64 bits = .finite sign mantissa exponent positive) :
    Fits mantissa exponent ∧ exponent ≤ 971 := by
  have canonical := canonical_unpack bits
  rw [unpacked] at canonical
  refine ⟨canonical, ?_⟩
  have bias : (Format.binary64.exponentBias : Int) = 1023 := by decide
  have field : (unpackExponent bits).toNat < 2048 := (unpackExponent bits).isLt
  have full : unpackExponent bits = -1#11 ↔ (unpackExponent bits).toNat = 2047 := BitVec.toNat_inj.symm
  simp only [UnpackedFloat.unpack, bias] at unpacked
  split at unpacked
  · split at unpacked <;> cases unpacked
  · next unfilled =>
    split at unpacked
    · next empty =>
      split at unpacked <;> cases unpacked
      have least : (unpackExponent bits).toNat = 0 := congrArg BitVec.toNat empty
      omega
    · cases unpacked
      rw [full] at unfilled
      omega

/-! ## Doubles that are read back -/

theorem beq_of_unpack_eq {x y : Float} (number : x.isNaN = false)
    (same : y.toModel.unpack = x.toModel.unpack) : (x == y) = true := by
  change x.toModel.unpack.isNaN = false at number
  change x.toModel.unpack.beq y.toModel.unpack = true
  rw [same]
  generalize x.toModel.unpack = value at number
  rcases value with (_ | _) | _ | _ | ⟨_ | _, mantissa, exponent, positive⟩
  · rfl
  · rfl
  · cases number
  · rfl
  · simp [UnpackedFloat.beq, UnpackedFloat.compare]
  · simp [UnpackedFloat.beq, UnpackedFloat.compare]

theorem unpack_neg {x : Float} {mantissa : Nat} {exponent : Int} {positive : 0 < mantissa}
    (fits : Fits mantissa exponent) (high : exponent ≤ 971)
    (unpacked : x.toModel.unpack = .finite .positive mantissa exponent positive) :
    (-x).toModel.unpack = .finite .negative mantissa exponent positive := by
  change (Float.Model.pack x.toModel.unpack.neg).unpack = _
  rw [unpacked]
  exact unpack_pack_of_fits positive fits high

theorem readFloat_doubleText {sign : Sign} {mantissa : Nat} {exponent : Int} (positive : 0 < mantissa)
    (fits : Fits mantissa exponent) (high : exponent ≤ 971) :
    ∃ y, readFloat (doubleText layout (.ofUnpacked (.finite sign mantissa exponent positive))).toList = some y ∧
      y.toModel.unpack = .finite sign mantissa exponent positive := by
  have around := around_shortest fits high positive
  have nonzero := around.digits_ne_zero positive fits
  rcases writes_decimalText nonzero with ⟨digits, power, read, value⟩
  rw [← value] at around
  have own := unpack_nearest positive fits high around
  have form := (isDecimalForm_decimalText (.inl nonzero)).readFloat_eq (isNegative sign)
  rw [read] at form
  have text : (doubleText layout (.ofUnpacked (.finite sign mantissa exponent positive))).toList =
      (if isNegative sign then ['-'] else []) ++ (decimalText layout (shortest mantissa exponent)).toList := by
    cases sign <;> simp [doubleText, Double.ofUnpacked, isNegative, positive.ne']
  rw [text, form]
  cases sign with
  | negative => exact ⟨_, rfl, unpack_neg fits high own⟩
  | positive => exact ⟨_, rfl, own⟩

/-- The text of a double is read as the double. -/
theorem readFloat_floatText {x : Float} (number : x.isNaN = false) :
    ∃ y, readFloat (floatText x).toList = some y ∧ (x == y) = true := by
  suffices read : ∃ y, readFloat (floatText x).toList = some y ∧ y.toModel.unpack = x.toModel.unpack by
    rcases read with ⟨y, read, same⟩
    exact ⟨y, read, beq_of_unpack_eq number same⟩
  rw [floatText, ofFloat_eq_ofUnpacked]
  cases unpacked : x.toModel.unpack with
  | notANumber =>
      change x.toModel.unpack.isNaN = false at number
      rw [unpacked] at number
      cases number
  | infinity sign =>
      cases sign with
      | negative => exact ⟨-(1.0 / 0.0), rfl, rfl⟩
      | positive => exact ⟨1.0 / 0.0, rfl, rfl⟩
  | zero sign =>
      cases sign with
      | negative => exact ⟨-0.0, rfl, rfl⟩
      | positive => exact ⟨0.0, rfl, rfl⟩
  | finite sign mantissa exponent positive =>
      rcases fits_of_unpack unpacked with ⟨fits, high⟩
      exact readFloat_doubleText positive fits high

/-! ## Whole numbers that are read back -/

/-- The text of a whole number is read as the double nearest to it. -/
theorem readFloat_integerText {value : Int} {x : Float} (found : ofInteger value = some x) :
    readFloat (integerText value).toList = some x := by
  have some := digitChars_ne_nil value.natAbs
  have all := allDigits_digitChars value.natAbs
  have form : IsDecimalForm (digitChars value.natAbs ++ [] ++ []) := .parts some all .none .none
  have read := form.readFloat_eq (decide (value < 0))
  rw [List.append_nil, readDecimal_whole some all exponentPart_nil nofun rfl, digitsValue_digitChars,
    Option.map_some] at read
  have text : (integerText value).toList =
      (if decide (value < 0) = true then ['-'] else []) ++ (digitChars value.natAbs ++ []) := by
    by_cases negative : value < 0 <;> simp [integerText, negative, digitChars]
  rw [text, read]
  unfold ofInteger at found
  simp only at found
  split at found
  · cases found
  · rw [← found]
    simp

end Number

end GuardedSteps
