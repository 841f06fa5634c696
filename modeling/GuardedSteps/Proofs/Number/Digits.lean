import GuardedSteps.Number.Reading
import GuardedSteps.Validation.Field
import Mathlib.Data.List.TakeWhile

/-!
Rows of digits. The digits that write a number are read as that number, and a row of digits of any
script is read as the number it writes unless it is too long.
-/

namespace GuardedSteps

namespace Number

open Text

/-! ## The digits of a number -/

theorem digitValue?_of_isDigit {c : Char} (digit : c.isDigit = true) :
    digitValue? c = some (c.toNat - '0'.toNat) := by
  have bounds : 48 ≤ c.toNat ∧ c.toNat ≤ 57 := by
    simpa [Char.isDigit, UInt32.le_iff_toNat_le] using digit
  simp [digitValue?, decimalZeros, bounds.1, bounds.2]

theorem isDigit_of_mem_digitChars {value : Nat} {c : Char} (member : c ∈ digitChars value) :
    c.isDigit = true := by
  rw [digitChars, Nat.toList_repr] at member
  exact Nat.isDigit_of_mem_toDigits (by decide) (by decide) member

theorem digitsValue_eq_ofDigitChars {digits : List Char} (all : ∀ c ∈ digits, c.isDigit = true)
    (start : Nat) :
    digits.foldl (fun value c => 10 * value + (digitValue? c).getD 0) start =
      Nat.ofDigitChars 10 digits start := by
  induction digits generalizing start with
  | nil => rfl
  | cons c rest induction =>
      have own := digitValue?_of_isDigit (all c (by simp))
      have others := induction fun other member => all other (List.mem_cons_of_mem _ member)
      rw [List.foldl_cons, own, Option.getD_some, others, Nat.ofDigitChars_cons]

theorem digitsValue_digitChars (value : Nat) : digitsValue (digitChars value) = value := by
  rw [digitsValue, digitsValue_eq_ofDigitChars fun _ => isDigit_of_mem_digitChars, digitChars,
    Nat.toList_repr, Nat.ofDigitChars_ten_toDigits]

theorem digitChars_ne_nil (value : Nat) : digitChars value ≠ [] := by
  rw [digitChars, Nat.toList_repr]
  exact Nat.toDigits_ne_nil

theorem isDecimal_digitChars (value : Nat) : (digitChars value).all isDecimal = true := by
  rw [List.all_eq_true]
  intro c member
  exact isDecimal_of_isDigit (isDigit_of_mem_digitChars member)

theorem length_digitChars_le {millis : Nat} (bounded : millis ≤ maxMillis) :
    (digitChars millis).length ≤ maxDigits := by
  have short : (Nat.toDigits 10 millis).length ≤ 13 := by
    rw [Nat.length_toDigits_le_iff (by decide) (by decide)]
    unfold maxMillis at bounded
    omega
  rw [digitChars, Nat.toList_repr]
  unfold maxDigits
  omega

/-! ## Reading -/

theorem splitSign_of_ne {c : Char} {rest : List Char} (plus : c ≠ '+') (minus : c ≠ '-') :
    splitSign (c :: rest) = (false, c :: rest) := by
  unfold splitSign
  split
  · next same =>
    cases same
    exact absurd rfl plus
  · next same =>
    cases same
    exact absurd rfl minus
  · rfl

theorem splitSign_of_isDecimal {c : Char} {rest : List Char} (digit : isDecimal c = true) :
    splitSign (c :: rest) = (false, c :: rest) := by
  have signs : isDecimal '+' = false ∧ isDecimal '-' = false := by decide
  refine splitSign_of_ne ?_ ?_
  · rintro rfl
    cases digit.symm.trans signs.1
  · rintro rfl
    cases digit.symm.trans signs.2

theorem readInteger_digits {digits : List Char} (someDigit : digits ≠ [])
    (decimal : digits.all isDecimal = true) :
    readInteger digits = if maxDigits < digits.length then .error (.tooManyDigits digits.length)
      else .ok (digitsValue digits) := by
  rcases List.exists_cons_of_ne_nil someDigit with ⟨first, rest, rfl⟩
  have front : isDecimal first = true := List.all_eq_true.mp decimal first (by simp)
  have unsigned : splitSign (first :: rest) = (false, first :: rest) := splitSign_of_isDecimal front
  have whole : (first :: rest).takeWhile isDecimal = first :: rest := by
    rw [List.takeWhile_eq_self_iff]
    exact List.all_eq_true.mp decimal
  simp [readInteger, unsigned, whole]

/-- A whole number is read exactly from a row of decimal digits that is not too long, behind one sign at
most. -/
theorem readInteger_eq_ok_iff {cs : List Char} {value : Int} :
    readInteger cs = .ok value ↔ ∃ negative digits, splitSign cs = (negative, digits) ∧ digits ≠ [] ∧
      digits.all isDecimal = true ∧ digits.length ≤ maxDigits ∧
      value = if negative then -(digitsValue digits : Int) else digitsValue digits := by
  rcases signed : splitSign cs with ⟨negative, unsigned⟩
  simp only [readInteger, signed]
  constructor
  · intro read
    split at read
    · cases read
    · next short =>
      split at read
      · cases read
      · next complete =>
        cases read
        simp only [Bool.or_eq_true, List.isEmpty_iff, decide_eq_true_eq, not_or, Nat.not_lt] at complete
        have whole : unsigned.takeWhile isDecimal = unsigned :=
          (List.takeWhile_prefix _).eq_of_length_le complete.2
        rw [whole] at complete short
        refine ⟨negative, unsigned, rfl, complete.1, ?_, Nat.le_of_not_lt short, by rw [whole]⟩
        rw [List.all_eq_true]
        exact List.takeWhile_eq_self_iff.mp whole
  · rintro ⟨_, digits, same, someDigit, decimal, short, rfl⟩
    cases same
    have whole : unsigned.takeWhile isDecimal = unsigned :=
      List.takeWhile_eq_self_iff.mpr (List.all_eq_true.mp decimal)
    simp [whole, someDigit, Nat.not_lt.mpr short]

end Number

end GuardedSteps
