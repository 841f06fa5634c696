import GuardedSteps.Pattern.Fault
import GuardedSteps.Value.Text

/-!
Why a comparison fails. A value that does not meet an expectation is a mismatch, which shows the
values; other faults are values that cannot be shown or measured, and patterns that are beyond use.
-/

namespace GuardedSteps

/-- The first point in which a value does not meet an expectation. -/
inductive Mismatch
  | flag (actual : Value) (expected : String)
  | noMapping (actual : Value)
  | keys (actual expected : List Value)
  | elements (actual expected : Value)
  | element (actual expected : Value)
  | plain (actual expected : Value)
  | order (actual : Value) (symbol operand : String)
  | pattern (operand : String) (fault : Pattern.Fault)

namespace Mismatch

def values : Mismatch → List Value
  | .flag actual _ => [actual]
  | .noMapping actual => [actual]
  | .keys actual expected => actual ++ expected
  | .elements actual expected => [actual, expected]
  | .element actual expected => [actual, expected]
  | .plain actual expected => [actual, expected]
  | .order actual _ _ => [actual]
  | .pattern _ _ => []

def writtenKeys (keys : List Value) : String :=
  let sorted := (keys.map Value.shown).mergeSort fun first second => !decide (second < first)
  Value.written (.collection .list (sorted.map .text))

def message : Mismatch → String
  | .flag actual expected => actual.written ++ " does not match '" ++ expected ++ "'"
  | .noMapping actual => "expected a mapping but got " ++ actual.written
  | .keys actual expected => "keys " ++ writtenKeys actual ++ " differ from " ++ writtenKeys expected
  | .elements actual expected =>
    actual.written ++ " does not contain the same elements as " ++ expected.written
  | .element actual expected => "no element of " ++ actual.written ++ " matches " ++ expected.written
  | .plain actual expected => "expected " ++ expected.written ++ " but got " ++ actual.written
  | .order actual symbol operand =>
    "cannot compare " ++ actual.written ++ " " ++ symbol ++ " " ++ Text.quoted operand ++
      ": both sides must be numbers"
  | .pattern operand fault =>
    "invalid pattern '" ++ operand ++ "': " ++ fault.message operand

end Mismatch

namespace Comparison

inductive Fault
  | mismatch (mismatch : Mismatch)
  | value (fault : Value.Fault)
  | pattern (obstacle : Pattern.Obstacle)

/-- A mismatch, unless one of the values that it shows cannot be written. -/
def fail {α : Type} (mismatch : Mismatch) : Except Fault α :=
  if Value.areWritable mismatch.values then .error (.mismatch mismatch)
  else .error (.value .tooManyDigits)

def measured {α : Type} : Except Value.Fault α → Except Fault α
  | .ok result => .ok result
  | .error fault => .error (.value fault)

end Comparison

end GuardedSteps
