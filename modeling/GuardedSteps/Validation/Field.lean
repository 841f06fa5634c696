import GuardedSteps.Validation.WholeText
import GuardedSteps.Value.Basic

/-!
Reading the values of fields. A whole number may be given as a number, a flag, a double without a
fraction, or a text; a text may be given as bytes.
-/

namespace GuardedSteps

namespace Validation

/-! ## Whole numbers -/

/-- The whole number that a double is exactly equal to, if it has no fraction and fits into
sixty-four bits. -/
def wholeDouble (x : Float) : Except Complaint Int :=
  if x.isNaN || x.isInf then .error .infinite
  else if x.floor != x then .error .fractional
  else if -9223372036854775808.0 < x && x < 9223372036854775808.0 then .ok x.toInt64.toInt
  else .error .wholeTooLong

def decoded? (bytes : List UInt8) : Option String := String.fromUTF8? ⟨bytes.toArray⟩

def asWhole : Value → Except Complaint Int
  | .flag value => .ok (if value then 1 else 0)
  | .integer value => .ok value
  | .double x => wholeDouble x
  | .text text => readWhole text
  | .bytes bytes =>
    match decoded? bytes with
    | some text => readWhole text
    | none => .error .unreadableWhole
  | _ => .error .notWhole

def atLeast (bound : Int) (value : Int) : Except Complaint Int :=
  if value < bound then .error (.below bound) else .ok value

def greaterThan (bound : Int) (value : Int) : Except Complaint Int :=
  if value ≤ bound then .error (.notAbove bound) else .ok value

/-! ## Milliseconds, texts and kinds -/

def boundedMillis (value : Int) : Except Complaint Nat :=
  if value < 0 then .error (.below 0)
  else if (maxMillis : Int) < value then .error (.above maxMillis)
  else .ok value.toNat

theorem boundedMillis_eq_ok_iff {value : Int} {millis : Nat} :
    boundedMillis value = .ok millis ↔ value = millis ∧ millis ≤ maxMillis := by
  unfold boundedMillis
  split
  · simp; omega
  · split
    · simp; omega
    · simp; omega

def asMillis (value : Value) : Except Complaint Nat := do boundedMillis (← asWhole value)

def asText : Value → Except Complaint String
  | .text text => .ok text
  | .bytes bytes =>
    match decoded? bytes with
    | some text => .ok text
    | none => .error .unreadableText
  | _ => .error .noText

def asKind (value : Value) : Except Complaint Kind :=
  match asText value with
  | .ok name =>
    match Kind.ofName? name with
    | some kind => .ok kind
    | none => .error .noKind
  | .error _ => .error .noKind

def orNull {α : Type} (read : Value → Except Complaint α) : Value → Except Complaint (Option α)
  | .null => .ok none
  | value => (read value).map some

end Validation

end GuardedSteps
