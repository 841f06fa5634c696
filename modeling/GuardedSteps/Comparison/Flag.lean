import GuardedSteps.Comparison.Scalar
import GuardedSteps.Pattern.Matching

/-!
Flags. An expected text that starts with a question mark says with an operator how the value is
compared with an operand. Without an operator the rest is compared plainly.
-/

namespace GuardedSteps

namespace Comparison

open Text

inductive Operator
  | equal
  | unequal
  | ordered (order : Order)
  | pattern
  | contains
  | not
  deriving DecidableEq, Repr

def operators : List (List Char × Operator) := [
  (['=', '='], .equal), (['!', '='], .unequal), (['>', '='], .ordered .atLeast),
  (['<', '='], .ordered .atMost), (['>'], .ordered .above), (['<'], .ordered .below),
  (['e'], .pattern), (['c', 'o', 'n', 't', 'a', 'i', 'n', 's'], .contains),
  (['n', 'o', 't'], .not)]

/-- The operator and the operand of a flag: the operator is its first word, and has something blank
behind it. -/
def operation? (flag : String) : Option (Operator × String) :=
  let (word, rest) := wordSpan flag.toList
  if rest.isEmpty then none
  else (operators.lookup word).map fun operator => (operator, String.ofList (trim rest))

def matchesPattern (actual : Value) (operand : String) : Except Fault Bool := do
  let text ← measured actual.asText
  match Pattern.test operand text with
  | .ok result => .ok result
  | .error (.fault fault) => fail (.pattern operand fault)
  | .error (.obstacle obstacle) => .error (.pattern obstacle)
  | .error .tooDeep => .error (.pattern .countTooLarge)

def anyEqual (operand : String) : List Value → Except Fault Bool
  | [] => .ok false
  | item :: rest => do
    if ← isEqual item (.text operand) then return true
    anyEqual operand rest

def occursIn (wanted : List Char) : List Char → Bool
  | [] => wanted.isEmpty
  | c :: rest => wanted.isPrefixOf (c :: rest) || occursIn wanted rest

/-- Whether a value contains the operand: a list, a tuple or a set as an element, any other value as
a part of its plain text. -/
def hasPart (actual : Value) (operand : String) : Except Fault Bool :=
  match actual with
  | .collection .list items | .collection .tuple items | .collection .set items =>
    anyEqual operand items
  | _ => do return occursIn operand.toList (← measured actual.asText).toList

def Operator.holds (operator : Operator) (actual : Value) (operand : String) : Except Fault Bool :=
  match operator with
  | .equal => isEqual actual (.text operand)
  | .unequal | .not => (isEqual actual (.text operand)).map (!·)
  | .ordered order => isOrdered actual order operand
  | .pattern => matchesPattern actual operand
  | .contains => hasPart actual operand

def satisfies (actual : Value) (flag : String) : Except Fault Bool :=
  match operation? flag with
  | some (operator, operand) => operator.holds actual operand
  | none => isEqual actual (.text flag)

example : operation? ">= 5 " = some (.ordered .atLeast, "5") ∧ operation? "5" = none := by
  decide +kernel

end Comparison

end GuardedSteps
