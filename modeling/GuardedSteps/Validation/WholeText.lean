import GuardedSteps.Text.Digit
import GuardedSteps.Validation.Complaint

/-!
Whole numbers in text. A plain number has ASCII digits, the first of which is no zero unless it is
the only one, and a minus sign if it is negative. A text that is not plain is tidied and read again:
white space around it, a plus sign, zeros in front and a fraction of zeros are dropped, and single
underscores between digits.
-/

namespace GuardedSteps

namespace Validation

open Text

def maxWholeDigits : Nat := 4300

def isPlain (digits rest : List Char) : Bool :=
  rest.isEmpty && match digits with
    | [] => false
    | ['0'] => true
    | first :: _ => first != '0'

/-- A plain whole number. A row of too many digits is not looked behind. -/
def readPlain (cs : List Char) : Except Complaint Int :=
  let (negative, unsigned) := match cs with
    | '-' :: rest => (true, rest)
    | rest => (false, rest)
  let digits := unsigned.takeWhile Char.isDigit
  if maxWholeDigits < digits.length && digits.head? != some '0' then .error .wholeTooLong
  else if isPlain digits (unsigned.drop digits.length) then
    let magnitude : Int := digitsValue digits
    .ok (if negative then -magnitude else magnitude)
  else .error .unreadableWhole

/-! ## Tidying -/

/-- What follows zeros in front, where `last` is the last character that was dropped. The last zero
stays if nothing but a fraction follows; underscores among the zeros are dropped with them. -/
def afterZeros? (last : Char) : List Char → Option (List Char)
  | [] => some [last]
  | c :: rest =>
    if c == '0' || c == '_' then afterZeros? c rest
    else if c.isDigit || c == '-' then some (c :: rest)
    else if c == '.' then some (last :: c :: rest)
    else none

def withoutZeros? : List Char → Option (List Char)
  | [] => none
  | c :: rest => if c == '0' then afterZeros? c rest else if c.isDigit then some (c :: rest) else none

def withoutFraction (cs : List Char) : List Char :=
  match cs.dropWhile (· != '.') with
  | '.' :: zeros@(_ :: _) => if zeros.all (· == '0') then cs.takeWhile (· != '.') else cs
  | _ => cs

def areApart (afterOther : Bool) : List Char → Bool
  | [] => afterOther
  | c :: rest => if c == '_' then afterOther && areApart false rest else areApart true rest

def withoutUnderscores (cs : List Char) : List Char :=
  if areApart false cs then cs.filter (· != '_') else cs

def tidySigned? : List Char → Option (List Char)
  | '-' :: unsigned => (withoutZeros? unsigned).map fun cs => '-' :: withoutFraction cs
  | unsigned => (withoutZeros? unsigned).map withoutFraction

def tidy? (cs : List Char) : Option (List Char) :=
  let signed := match trimSpaces cs with
    | '+' :: unsigned => if unsigned.head? == some '-' then none else some unsigned
    | cs => some cs
  (signed.bind tidySigned?).map withoutUnderscores

/-- The whole number that a text writes. -/
def readWhole (text : String) : Except Complaint Int :=
  match readPlain text.toList with
  | .error .unreadableWhole =>
    match tidy? text.toList with
    | some tidied => readPlain tidied
    | none => .error .unreadableWhole
  | result => result

example : tidy? [' ', '+', '0', '1', '_', '2', '.', '0'] = some ['1', '2'] ∧
    tidy? ['0', '-', '1'] = some ['-', '1'] ∧ tidy? ['0', '+', '5'] = none := by decide +kernel

end Validation

end GuardedSteps
