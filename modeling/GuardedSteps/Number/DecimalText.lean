import GuardedSteps.Number.Shortest

/-!
The text of numbers. A whole number is written with all its digits; a double is written with the
digits of its shortest decimal, positionally or with a power of ten.
-/

namespace GuardedSteps

namespace Number

/-! ## Whole numbers -/

def digitChars (value : Nat) : List Char := (Nat.repr value).toList

def integerText (value : Int) : String :=
  if value < 0 then "-" ++ Nat.repr value.natAbs else Nat.repr value.natAbs

/-- The longest row of digits that is converted between a text and a whole number. -/
def maxDigits : Nat := 4300

def isWritable (value : Int) : Bool := value.natAbs < Nat.pow 10 maxDigits

/-! ## Doubles -/

/-- The choices a text of doubles makes. -/
structure Layout where
  /-- The least and the greatest number of digits before the point that is written positionally;
  a negative number counts zeros after the point. -/
  leastPoint : Int
  greatestPoint : Int
  wholeMark : String
  exponentDigits : Nat

/-- Numbers from a ten-thousandth up to ten to the sixteenth are written positionally, a whole one
ends in `.0`, and a power of ten has two digits at least. -/
def layout : Layout := ⟨-3, 16, ".0", 2⟩

def padded (width : Nat) (cs : List Char) : List Char :=
  List.replicate (width - cs.length) '0' ++ cs

def significant (cs : List Char) : List Char := (cs.reverse.dropWhile (· == '0')).reverse

def positional (layout : Layout) (cs : List Char) (point : Int) : String :=
  if point ≤ 0 then
    "0." ++ String.ofList (List.replicate (-point).toNat '0' ++ cs)
  else
    let whole := cs.take point.toNat ++ List.replicate (point.toNat - cs.length) '0'
    let rest := cs.drop point.toNat
    String.ofList whole ++ (if rest.isEmpty then layout.wholeMark else "." ++ String.ofList rest)

def scientific (layout : Layout) (cs : List Char) (point : Int) : String :=
  let power := point - 1
  let sign := if power < 0 then "-" else "+"
  let rest := cs.drop 1
  String.ofList (cs.take 1) ++ (if rest.isEmpty then "" else "." ++ String.ofList rest) ++ "e" ++
    sign ++ String.ofList (padded layout.exponentDigits (digitChars power.natAbs))

def decimalText (layout : Layout) (decimal : Decimal) : String :=
  let all := digitChars decimal.digits
  let point := all.length + decimal.power
  let cs := significant all
  if layout.leastPoint ≤ point && point ≤ layout.greatestPoint then positional layout cs point
  else scientific layout cs point

def doubleText (layout : Layout) : Double → String
  | .notANumber => "nan"
  | .infinite negative => if negative then "-inf" else "inf"
  | .finite negative mantissa exponent =>
    (if negative then "-" else "") ++
      if mantissa = 0 then "0" ++ layout.wholeMark else decimalText layout (shortest mantissa exponent)

/-- The shortest text that is read back as the same double. -/
def floatText (x : Float) : String := doubleText layout (.ofFloat x)

example : decimalText layout ⟨15, -1⟩ = "1.5" ∧ decimalText layout ⟨1, -5⟩ = "1e-05" ∧
    decimalText layout ⟨1, 15⟩ = "1000000000000000.0" ∧ decimalText layout ⟨1, 16⟩ = "1e+16" := by
  decide +kernel

end Number

end GuardedSteps
