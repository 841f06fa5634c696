import GuardedSteps.Proofs.Number.Digits
import GuardedSteps.Proofs.Text.Trim

/-!
The form of numbers. A decimal is a row of digits, which a point with further digits and a power of ten
may follow. Every text of this form is read as a double, with a sign in front or without one, and whole
numbers and doubles are written in this form.
-/

namespace GuardedSteps

namespace Number

open Text

/-! ## Decimals -/

def AllDigits (cs : List Char) : Prop := ∀ c ∈ cs, c.isDigit = true

inductive IsFraction : List Char → Prop
  | none : IsFraction []
  | digits {row : List Char} (all : AllDigits row) : IsFraction ('.' :: row)

inductive IsPower : List Char → Prop
  | none : IsPower []
  | digits {sign : Char} {row : List Char} (isSign : sign = '+' ∨ sign = '-') (some : row ≠ [])
      (all : AllDigits row) : IsPower ('e' :: sign :: row)

inductive IsDecimalForm : List Char → Prop
  | parts {whole fraction power : List Char} (some : whole ≠ []) (all : AllDigits whole)
      (isFraction : IsFraction fraction) (isPower : IsPower power) :
      IsDecimalForm (whole ++ fraction ++ power)

/-! ## Reading -/

def EndsDigits (rest : List Char) : Prop := ∀ c ∈ rest.head?, isDecimal c = false ∧ c ≠ '_'

theorem digitRowAfter_append {row rest : List Char} (all : AllDigits row) (ends : EndsDigits rest)
    (afterDigit : Bool) : digitRowAfter afterDigit (row ++ rest) = (row, rest) := by
  induction row generalizing afterDigit with
  | nil =>
      cases rest with
      | nil => rfl
      | cons c rest =>
          rcases ends c rfl with ⟨other, solid⟩
          simp [digitRowAfter, other, solid]
  | cons c row induction =>
      have digit := isDecimal_of_isDigit (all c (by simp))
      have others := induction (fun other member => all other (List.mem_cons_of_mem _ member)) true
      simp [digitRowAfter, digit, others]

theorem digitRow_append {row rest : List Char} (all : AllDigits row) (ends : EndsDigits rest) :
    digitRow (row ++ rest) = (row, rest) := digitRowAfter_append all ends false

theorem digitRow_self {row : List Char} (all : AllDigits row) : digitRow row = (row, []) := by
  have whole : digitRow (row ++ []) = (row, []) := digitRow_append all nofun
  rwa [List.append_nil] at whole

theorem IsPower.endsDigits {power : List Char} (isPower : IsPower power) : EndsDigits power := by
  cases isPower with
  | none => nofun
  | digits =>
      intro c first
      cases first
      decide

theorem IsFraction.endsDigits {fraction power : List Char} (isFraction : IsFraction fraction)
    (isPower : IsPower power) : EndsDigits (fraction ++ power) := by
  cases isFraction with
  | none => exact isPower.endsDigits
  | digits =>
      intro c first
      cases first
      decide

theorem IsFraction.fractionPart_eq {fraction power : List Char} (isFraction : IsFraction fraction)
    (isPower : IsPower power) : ∃ row, fractionPart (fraction ++ power) = (row, power) := by
  cases isFraction with
  | none =>
      cases isPower with
      | none => exact ⟨[], rfl⟩
      | digits => exact ⟨[], rfl⟩
  | @digits row all => exact ⟨row, digitRow_append all isPower.endsDigits⟩

theorem IsPower.exists_exponentPart {power : List Char} (isPower : IsPower power) :
    ∃ exponent, exponentPart power = some exponent := by
  cases isPower with
  | none => exact ⟨0, rfl⟩
  | @digits sign row isSign some all =>
      rcases List.exists_cons_of_ne_nil some with ⟨first, rest, rfl⟩
      have read := digitRow_self all
      rcases isSign with rfl | rfl
      · simp [exponentPart, splitSign, read]
      · simp [exponentPart, splitSign, read]

theorem IsDecimalForm.isSome_readDecimal {cs : List Char} (form : IsDecimalForm cs) :
    (readDecimal cs).isSome = true := by
  cases form with
  | @parts whole fraction power some all isFraction isPower =>
      have front := digitRow_append all (isFraction.endsDigits isPower)
      rcases isFraction.fractionPart_eq isPower with ⟨row, middle⟩
      rcases isPower.exists_exponentPart with ⟨exponent, back⟩
      simp [readDecimal, List.append_assoc, front, middle, back, some]

/-! Nothing in a decimal is blank, so trimming leaves it as it is. -/

theorem isBlank_of_isDigit {c : Char} (digit : c.isDigit = true) : isBlank c = false := by
  have bounds : 48 ≤ c.toNat ∧ c.toNat ≤ 57 := by
    simpa [Char.isDigit, UInt32.le_iff_toNat_le] using digit
  have apart : ∀ range ∈ blankRanges, range.2 < 48 ∨ 57 < range.1 := by decide
  apply Bool.eq_false_iff.mpr
  intro blank
  rcases List.any_eq_true.mp blank with ⟨range, member, inside⟩
  have outside := apart range member
  simp only [Bool.and_eq_true, decide_eq_true_eq] at inside
  omega

theorem IsFraction.solid {fraction : List Char} (isFraction : IsFraction fraction) :
    ∀ c ∈ fraction, isBlank c = false := by
  cases isFraction with
  | none => nofun
  | digits all =>
      intro c member
      rcases List.mem_cons.mp member with rfl | member
      · decide
      · exact isBlank_of_isDigit (all c member)

theorem IsPower.solid {power : List Char} (isPower : IsPower power) : ∀ c ∈ power, isBlank c = false := by
  cases isPower with
  | none => nofun
  | digits isSign some all =>
      intro c member
      rcases List.mem_cons.mp member with rfl | member
      · decide
      · rcases List.mem_cons.mp member with rfl | member
        · rcases isSign with rfl | rfl <;> decide
        · exact isBlank_of_isDigit (all c member)

theorem IsDecimalForm.solid {cs : List Char} (form : IsDecimalForm cs) : ∀ c ∈ cs, isBlank c = false := by
  cases form with
  | parts some all isFraction isPower =>
      intro c member
      rcases List.mem_append.mp member with member | member
      · rcases List.mem_append.mp member with member | member
        · exact isBlank_of_isDigit (all c member)
        · exact isFraction.solid c member
      · exact isPower.solid c member

theorem trim_of_solid {cs : List Char} (solid : ∀ c ∈ cs, isBlank c = false) : trim cs = cs :=
  trim_eq_self (fun c first => solid c (List.mem_of_mem_head? first))
    fun c last => solid c (List.mem_of_mem_getLast? last)

theorem IsDecimalForm.splitSign_eq {cs : List Char} (form : IsDecimalForm cs) :
    splitSign cs = (false, cs) := by
  cases form with
  | parts some all isFraction isPower =>
      rcases List.exists_cons_of_ne_nil some with ⟨first, rest, rfl⟩
      exact splitSign_of_isDecimal (isDecimal_of_isDigit (all first (by simp)))

/-! No name of a double starts with a digit. -/

theorem toLower_of_isDigit {c : Char} (digit : c.isDigit = true) : c.toLower = c := by
  have bounds : 48 ≤ c.toNat ∧ c.toNat ≤ 57 := by
    simpa [Char.isDigit, UInt32.le_iff_toNat_le] using digit
  have plain : ¬ (c.val ≥ 'A'.val ∧ c.val ≤ 'Z'.val) := by
    intro upper
    have low : 65 ≤ c.toNat := by simpa [UInt32.le_iff_toNat_le] using upper.1
    omega
  unfold Char.toLower
  rw [dif_neg plain]

theorem readName_eq_none {c : Char} {rest : List Char} (other : c.toLower ≠ 'i' ∧ c.toLower ≠ 'n') :
    readName (c :: rest) = none := by
  have different (name : String) (first : name.toList.head? = some 'i' ∨ name.toList.head? = some 'n') :
      String.ofList ((c :: rest).map Char.toLower) ≠ name := by
    rintro rfl
    simp [other] at first
  have finite := different "inf" (by decide)
  have infinity := different "infinity" (by decide)
  have number := different "nan" (by decide)
  simp only [readName, beq_iff_eq, Bool.or_eq_true, finite, infinity, number, or_self, if_false]

theorem IsDecimalForm.readName_eq {cs : List Char} (form : IsDecimalForm cs) : readName cs = none := by
  cases form with
  | parts some all isFraction isPower =>
      rcases List.exists_cons_of_ne_nil some with ⟨first, rest, rfl⟩
      have digit : first.isDigit = true := all first (by simp)
      apply readName_eq_none
      rw [toLower_of_isDigit digit]
      constructor <;> rintro rfl <;> cases digit

/-- A decimal is read digit for digit, with a minus in front or without. -/
theorem IsDecimalForm.readFloat_eq {cs : List Char} (form : IsDecimalForm cs) (negative : Bool) :
    readFloat ((if negative then ['-'] else []) ++ cs) =
      (readDecimal cs).map fun x => if negative then -x else x := by
  have solid : ∀ c ∈ (if negative then ['-'] else []) ++ cs, isBlank c = false := by
    intro c member
    rcases List.mem_append.mp member with sign | member
    · cases negative with
      | false => cases sign
      | true =>
          cases List.mem_singleton.mp sign
          decide
    · exact form.solid c member
  have signed : splitSign ((if negative then ['-'] else []) ++ cs) = (negative, cs) := by
    cases negative with
    | false => exact form.splitSign_eq
    | true => rfl
  rw [readFloat, trim_of_solid solid, signed]
  simp only [form.readName_eq, Option.none_or]

theorem IsDecimalForm.isSome_readFloat {cs : List Char} (form : IsDecimalForm cs) (negative : Bool) :
    (readFloat ((if negative then ['-'] else []) ++ cs)).isSome = true := by
  rw [form.readFloat_eq, Option.isSome_map]
  exact form.isSome_readDecimal

/-! ## Texts that are read alike, or not at all -/

theorem readFloat_trim (cs : List Char) : readFloat (trim cs) = readFloat cs := by
  rw [readFloat, readFloat, trim_trim]

def openingBrackets : List Char := ['[', '(', '\x7b']

theorem readDecimal_eq_none {c : Char} {rest : List Char} (digit : isDecimal c = false) (point : c ≠ '.') :
    readDecimal (c :: rest) = none := by
  have row : digitRow (c :: rest) = ([], c :: rest) := by simp [digitRow, digitRowAfter, digit]
  have fraction : fractionPart (c :: rest) = ([], c :: rest) := by
    unfold fractionPart
    split
    · next same =>
      cases same
      exact absurd rfl point
    · rfl
  simp [readDecimal, row, fraction]

theorem readFloat_of_bracket {cs rest : List Char} {c : Char} (front : trim cs = c :: rest)
    (bracket : c ∈ openingBrackets) : readFloat cs = none := by
  have facts : openingBrackets.all (fun c => c.toLower ≠ 'i' ∧ c.toLower ≠ 'n' ∧ isDecimal c = false ∧
      c ≠ '.' ∧ c ≠ '+' ∧ c ≠ '-') = true := by decide
  rcases of_decide_eq_true (List.all_eq_true.mp facts c bracket) with
    ⟨infinity, number, digit, point, plus, minus⟩
  have sign : splitSign (c :: rest) = (false, c :: rest) := splitSign_of_ne plus minus
  simp [readFloat, front, sign, readName_eq_none ⟨infinity, number⟩, readDecimal_eq_none digit point]

/-! ## Written numbers -/

theorem allDigits_digitChars (value : Nat) : AllDigits (digitChars value) :=
  fun _ => isDigit_of_mem_digitChars

theorem allDigits_replicate (count : Nat) : AllDigits (List.replicate count '0') := by
  intro c member
  rw [List.eq_of_mem_replicate member]
  rfl

theorem AllDigits.append {row other : List Char} (all : AllDigits row) (more : AllDigits other) :
    AllDigits (row ++ other) := by
  intro c member
  rcases List.mem_append.mp member with member | member
  · exact all c member
  · exact more c member

theorem AllDigits.sublist {row other : List Char} (all : AllDigits row) (part : other.Sublist row) :
    AllDigits other := fun c member => all c (part.mem member)

theorem isSome_readFloat_integerText (value : Int) :
    (readFloat (integerText value).toList).isSome = true := by
  have form : IsDecimalForm (digitChars value.natAbs ++ [] ++ []) :=
    .parts (digitChars_ne_nil _) (allDigits_digitChars _) .none .none
  have read := form.isSome_readFloat (decide (value < 0))
  unfold integerText
  split
  · next negative => simpa [negative, digitChars] using read
  · next positive => simpa [positive, digitChars] using read

theorem isFraction_of_rest {mark : String} {rest : List Char} (isMark : IsFraction mark.toList)
    (all : AllDigits rest) :
    IsFraction (if rest.isEmpty then mark else "." ++ String.ofList rest).toList := by
  split
  · exact isMark
  · simpa using IsFraction.digits all

theorem isDecimalForm_positional {row : List Char} (all : AllDigits row) (point : Int) :
    IsDecimalForm (positional layout row point).toList := by
  unfold positional
  split
  · have fraction := (allDigits_replicate (-point).toNat).append all
    have form : IsDecimalForm (['0'] ++ ('.' :: (List.replicate (-point).toNat '0' ++ row)) ++ []) :=
      .parts (by simp) (allDigits_replicate 1) (.digits fraction) .none
    simpa using form
  · have whole := (all.sublist (List.take_sublist point.toNat row)).append
      (allDigits_replicate (point.toNat - row.length))
    have some : row.take point.toNat ++ List.replicate (point.toNat - row.length) '0' ≠ [] := by
      apply List.ne_nil_of_length_pos
      simp only [List.length_append, List.length_take, List.length_replicate]
      omega
    have mark : IsFraction layout.wholeMark.toList := .digits (allDigits_replicate 1)
    have fraction := isFraction_of_rest mark (all.sublist (List.drop_sublist point.toNat row))
    simpa using IsDecimalForm.parts some whole fraction .none

theorem isDecimalForm_scientific {row : List Char} (some : row ≠ []) (all : AllDigits row) (point : Int) :
    IsDecimalForm (scientific layout row point).toList := by
  have first : row.take 1 ≠ [] := by simp [some]
  have mark : IsFraction "".toList := .none
  have fraction := isFraction_of_rest mark (all.sublist (List.drop_sublist 1 row))
  have digits : AllDigits (padded layout.exponentDigits (digitChars (point - 1).natAbs)) :=
    (allDigits_replicate _).append (allDigits_digitChars _)
  have power (sign : Char) (isSign : sign = '+' ∨ sign = '-') :
      IsPower ('e' :: sign :: padded layout.exponentDigits (digitChars (point - 1).natAbs)) :=
    .digits isSign (by simp [padded, digitChars_ne_nil]) digits
  have whole := all.sublist (List.take_sublist 1 row)
  unfold scientific
  by_cases negative : point - 1 < 0
  · simpa [negative] using IsDecimalForm.parts first whole fraction (power '-' (.inr rfl))
  · simpa [negative] using IsDecimalForm.parts first whole fraction (power '+' (.inl rfl))

theorem digitsValue_replicate (count : Nat) : digitsValue (List.replicate count '0') = 0 := by
  induction count with
  | zero => rfl
  | succ count induction => exact induction

theorem significant_digitChars {value : Nat} (positive : value ≠ 0) :
    significant (digitChars value) ≠ [] := by
  intro empty
  have zeros : ∀ c ∈ digitChars value, c = '0' := by
    simpa [significant, List.dropWhile_eq_nil_iff] using empty
  have zero : digitsValue (digitChars value) = 0 := by
    rw [List.eq_replicate_of_mem zeros, digitsValue_replicate]
  exact positive ((digitsValue_digitChars value).symm.trans zero)

theorem allDigits_significant {row : List Char} (all : AllDigits row) : AllDigits (significant row) := by
  intro c member
  have kept := (List.dropWhile_sublist (· == '0')).mem (List.mem_reverse.mp member)
  exact all c (List.mem_reverse.mp kept)

/-! Numbers that round to a positive double are positive, so its shortest decimal is no zero. -/

theorem Grid.holds_of_nearest? {grid : Grid} {multiple : Nat} (near : grid.nearest? = some multiple) :
    grid.holds multiple = true := by
  unfold Grid.nearest? at near
  grind

theorem Grid.low_pos {mantissa : Nat} (positive : 0 < mantissa) (exponent power : Int) :
    0 < (Grid.of mantissa exponent power).low := by
  have weight : 0 < (scale 2 (exponent - 2)).1 * (scale 10 power).2 :=
    Nat.mul_pos (Nat.pow_pos (by decide)) (Nat.pow_pos (by decide))
  refine Nat.mul_pos ?_ weight
  split
  · omega
  · omega

theorem ne_zero_of_nearest? {mantissa multiple : Nat} {exponent power : Int} (positive : 0 < mantissa)
    (near : (Grid.of mantissa exponent power).nearest? = some multiple) : multiple ≠ 0 := by
  rintro rfl
  have holds := Grid.holds_of_nearest? near
  have low := Grid.low_pos positive exponent power
  unfold Grid.holds at holds
  split at holds
  · simp at holds
    omega
  · simp at holds

theorem digits_shortestFrom {mantissa : Nat} (positive : 0 < mantissa) (exponent top : Int) (count : Nat) :
    (shortestFrom mantissa exponent top count).digits ≠ 0 ∨
      shortestFrom mantissa exponent top count = ⟨0, 0⟩ := by
  induction count with
  | zero => exact .inr rfl
  | succ count induction =>
      rw [shortestFrom]
      split
      · next near => exact .inl (ne_zero_of_nearest? positive near)
      · exact induction

theorem isDecimalForm_decimalText {decimal : Decimal} (some : decimal.digits ≠ 0 ∨ decimal = ⟨0, 0⟩) :
    IsDecimalForm (decimalText layout decimal).toList := by
  have all := allDigits_significant (allDigits_digitChars decimal.digits)
  rcases some with some | rfl
  · unfold decimalText
    simp only
    split
    · exact isDecimalForm_positional all _
    · exact isDecimalForm_scientific (significant_digitChars some) all _
  · have zero : decimalText layout ⟨0, 0⟩ = positional layout (significant (digitChars 0)) 1 := by
      decide +kernel
    rw [zero]
    exact isDecimalForm_positional all 1

theorem isSome_readFloat_doubleText (double : Double) :
    (readFloat (doubleText layout double).toList).isSome = true := by
  cases double with
  | notANumber => decide +kernel
  | infinite negative =>
      cases negative with
      | false => decide +kernel
      | true => decide +kernel
  | finite negative mantissa exponent =>
      have form : IsDecimalForm (if mantissa = 0 then "0" ++ layout.wholeMark
          else decimalText layout (shortest mantissa exponent)).toList := by
        split
        · exact isDecimalForm_positional (allDigits_replicate 1) 1
        · next some =>
          exact isDecimalForm_decimalText (digits_shortestFrom (Nat.pos_of_ne_zero some) _ _ _)
      have read := form.isSome_readFloat negative
      cases negative with
      | false => simpa [doubleText] using read
      | true => simpa [doubleText] using read

/-- A double is written as a text that is read as a double. -/
theorem isSome_readFloat_floatText (x : Float) : (readFloat (floatText x).toList).isSome = true :=
  isSome_readFloat_doubleText _

end Number

end GuardedSteps
