import GuardedSteps.Number.Reading
import GuardedSteps.Text.Quoted
import GuardedSteps.Value.Basic

/-!
The texts of values. The written form shows what a value is made of, and stands in messages; the
plain text is what a comparison looks at. Both show whole numbers with all their digits, which is
refused beyond a limit.
-/

namespace GuardedSteps

namespace Value

/-! ## The written form -/

def bracketed (shape : Shape) (items : List String) : String :=
  let inner := ", ".intercalate items
  match shape, items with
  | .list, _ => "[" ++ inner ++ "]"
  | .tuple, [_] => "(" ++ inner ++ ",)"
  | .tuple, _ => "(" ++ inner ++ ")"
  | .set, [] => "set()"
  | .set, _ => "\x7b" ++ inner ++ "\x7d"
  | .frozenSet, [] => "frozenset()"
  | .frozenSet, _ => "frozenset(\x7b" ++ inner ++ "\x7d)"

mutual
def written : Value → String
  | .null => "None"
  | .flag value => if value then "True" else "False"
  | .integer value => Number.integerText value
  | .double value => Number.floatText value
  | .text value => Text.quoted value
  | .bytes values => Text.quotedBytes values
  | .collection shape items => bracketed shape (writtenItems items)
  | .mapping entries => "\x7b" ++ ", ".intercalate (writtenEntries entries) ++ "\x7d"
  | .object fields => "namespace(" ++ ", ".intercalate (writtenFields fields) ++ ")"

def writtenItems : List Value → List String
  | [] => []
  | item :: rest => written item :: writtenItems rest

def writtenEntries : List (Value × Value) → List String
  | [] => []
  | (key, value) :: rest => (written key ++ ": " ++ written value) :: writtenEntries rest

def writtenFields : List (String × Value) → List String
  | [] => []
  | (name, value) :: rest =>
    if name.isEmpty then writtenFields rest else (name ++ "=" ++ written value) :: writtenFields rest
end

/-! ## The limit on digits -/

mutual
/-- Whether no whole number inside the value has too many digits to be written. -/
def isWritable : Value → Bool
  | .integer value => Number.isWritable value
  | .collection _ items => areWritable items
  | .mapping entries => entriesAreWritable entries
  | .object fields => fieldsAreWritable fields
  | _ => true

def areWritable : List Value → Bool
  | [] => true
  | item :: rest => isWritable item && areWritable rest

def entriesAreWritable : List (Value × Value) → Bool
  | [] => true
  | (key, value) :: rest => isWritable key && isWritable value && entriesAreWritable rest

def fieldsAreWritable : List (String × Value) → Bool
  | [] => true
  | (name, value) :: rest => (name.isEmpty || isWritable value) && fieldsAreWritable rest
end

/-- Why a value cannot be shown or measured. -/
inductive Fault
  | tooManyDigits
  | beyondDoubles
  deriving DecidableEq, Repr

/-! ## The plain text -/

/-- The plain text of a value. Texts stand for themselves, and null and the flags have names of
their own here. -/
def plain : Value → String
  | .null => "null"
  | .flag value => if value then "true" else "false"
  | .text value => value
  | value => value.written

def asText (value : Value) : Except Fault String :=
  if value.isWritable then .ok value.plain else .error .tooManyDigits

/-- The form of a key in messages about keys: like the written form, but a text stands for itself. -/
def shown : Value → String
  | .text value => value
  | value => value.written

/-! ## The number -/

/-- The number that a value stands for in a comparison: whole numbers, doubles and texts that write
a double, but not flags. -/
def asNumber : Value → Except Fault (Option Float)
  | .integer value =>
    match Number.ofInteger value with
    | some x => .ok (some x)
    | none => .error .beyondDoubles
  | .double value => .ok (some value)
  | .text value => .ok (Number.readFloat value.toList)
  | _ => .ok none

example : asNumber (.flag true) = .ok none := rfl

end Value

end GuardedSteps
