import GuardedSteps.Comparison.Mismatch

/-!
Comparing single values. Two values that both stand for numbers are compared as numbers, any others
by their plain texts; blanks around the expected text do not count.
-/

namespace GuardedSteps

namespace Comparison

open Text

def numbers? (actual expected : Value) : Except Fault (Option (Float × Float)) := do
  let left ← measured actual.asNumber
  let right ← measured expected.asNumber
  return left.bind fun left => right.map fun right => (left, right)

/-- Whether two values are equal as numbers, or as texts when one of them is no number. -/
def isEqual (actual expected : Value) : Except Fault Bool := do
  match ← numbers? actual expected with
  | some (left, right) => return left == right
  | none => return (← measured actual.asText) == trimmed (← measured expected.asText)

/-! ## Orders -/

inductive Order
  | above
  | atLeast
  | below
  | atMost
  deriving DecidableEq, Repr

def Order.symbol : Order → String
  | .above => ">"
  | .atLeast => ">="
  | .below => "<"
  | .atMost => "<="

def Order.holds (order : Order) (left right : Float) : Bool :=
  match order with
  | .above => right < left
  | .atLeast => right ≤ left
  | .below => left < right
  | .atMost => left ≤ right

def isOrdered (actual : Value) (order : Order) (operand : String) : Except Fault Bool := do
  match ← numbers? actual (.text operand) with
  | some (left, right) => return order.holds left right
  | none => fail (.order actual order.symbol operand)

end Comparison

end GuardedSteps
