import GuardedSteps.Text.Digit
import GuardedSteps.Number.DecimalText
import GuardedSteps.Text.Quoted

/-!
Reading numbers. A double is read from a decimal with an optional fraction and power of ten, or from
the names of infinity and of the value that is not a number. The digits of every script are
admitted, and single underscores between digits are skipped.
-/

namespace GuardedSteps

namespace Number

open Text

/-! ## Rows of digits -/

def splitSign : List Char → Bool × List Char
  | '+' :: rest => (false, rest)
  | '-' :: rest => (true, rest)
  | rest => (false, rest)

def startsDecimal : List Char → Bool
  | [] => false
  | c :: _ => isDecimal c

/-- The row of digits at the front, and what follows it. An underscore is skipped when a digit
stands before it, as `afterDigit` says, and another behind it. -/
def digitRowAfter (afterDigit : Bool) : List Char → List Char × List Char
  | [] => ([], [])
  | c :: rest =>
    if isDecimal c then
      let row := digitRowAfter true rest
      (c :: row.1, row.2)
    else if c == '_' && afterDigit && startsDecimal rest then digitRowAfter false rest
    else ([], c :: rest)

def digitRow (cs : List Char) : List Char × List Char := digitRowAfter false cs

example : digitRow ['1', '_', '0', '_', 'x'] = (['1', '0'], ['_', 'x']) := by decide +kernel

/-! ## Doubles -/

/-- The double nearest to `digits * 10 ^ power`. A number with that many digits is compared with
the range of the doubles first, so that no huge power is formed. -/
def nearest (digits : Nat) (power : Int) : Float :=
  let size := (digitChars digits).length + power
  if digits = 0 ∨ size < -330 then 0.0
  else if 310 < size then 1.0 / 0.0
  else Float.ofScientific digits (decide (power < 0)) power.natAbs

def fractionPart : List Char → List Char × List Char
  | '.' :: rest => digitRow rest
  | rest => ([], rest)

def exponentPart : List Char → Option Int
  | [] => some 0
  | c :: rest =>
    if c == 'e' || c == 'E' then
      let (negative, unsigned) := splitSign rest
      match digitRow unsigned with
      | (row@(_ :: _), []) => some (if negative then -(digitsValue row : Int) else digitsValue row)
      | _ => none
    else none

def readDecimal (cs : List Char) : Option Float :=
  let (whole, afterWhole) := digitRow cs
  let (fraction, afterFraction) := fractionPart afterWhole
  if whole.isEmpty && fraction.isEmpty then none
  else (exponentPart afterFraction).map fun power =>
    nearest (digitsValue (whole ++ fraction)) (power - fraction.length)

def readName (cs : List Char) : Option Float :=
  let name := String.ofList (cs.map Char.toLower)
  if name == "inf" || name == "infinity" then some (1.0 / 0.0)
  else if name == "nan" then some (0.0 / 0.0)
  else none

/-- The double that a text writes, blank characters around it apart. -/
def readFloat (cs : List Char) : Option Float :=
  let (negative, unsigned) := splitSign (trim cs)
  ((readName unsigned).or (readDecimal unsigned)).map fun x => if negative then -x else x

def ofInteger (value : Int) : Option Float :=
  let x := nearest value.natAbs 0
  if x.isInf then none else some (if value < 0 then -x else x)

/-! ## Whole numbers -/

inductive IntegerFault
  | notANumber (text : String)
  | tooManyDigits (count : Nat)
  deriving DecidableEq, Repr

def shownLimit : Nat := 200

def IntegerFault.message : IntegerFault → String
  | .notANumber text =>
    "invalid literal for int() with base 10: " ++ String.ofList ((quoted text).toList.take shownLimit)
  | .tooManyDigits count =>
    "Exceeds the limit (" ++ Nat.repr maxDigits ++ " digits) for integer string conversion: value has " ++
      Nat.repr count ++ " digits; use sys.set_int_max_str_digits() to increase the limit"

/-- The whole number written by a row of digits with at most one sign in front. The row is measured
before anything behind it is looked at. -/
def readInteger (cs : List Char) : Except IntegerFault Int :=
  let (negative, unsigned) := splitSign cs
  let digits := unsigned.takeWhile isDecimal
  if maxDigits < digits.length then .error (.tooManyDigits digits.length)
  else if digits.isEmpty || digits.length < unsigned.length then .error (.notANumber (String.ofList cs))
  else .ok (if negative then -(digitsValue digits : Int) else digitsValue digits)

end Number

end GuardedSteps
