import GuardedSteps.Number.Reading

/-!
Clock readings. A clock counts seconds; milliseconds are turned into seconds when a wait begins and
back into whole milliseconds when a broken wait is reported. The rules of polling need no more of
a clock than the operations named here.
-/

namespace GuardedSteps

/-- Why a time cannot be turned from or into milliseconds, or cannot be waited for. -/
inductive ClockFault
  | tooLarge
  | infinite
  | notANumber
  /-- The platform does not sleep for so long. -/
  | tooLong
  deriving DecidableEq, Repr

def ClockFault.message : ClockFault → String
  | .tooLarge => "int too large to convert to float"
  | .infinite => "cannot convert float infinity to integer"
  | .notANumber => "cannot convert float NaN to integer"
  | .tooLong => "timestamp too large to convert to C _PyTime_t"

/-- Readings of a clock, and spans between them. -/
class ClockTime (T : Type) where
  start : T
  ofMillis : Int → Except ClockFault T
  later : T → T → T
  /-- The span from the second reading to the first. -/
  since : T → T → T
  /-- Whether a span is over: nothing of it remains. -/
  isOver : T → Bool
  less : T → T → Bool
  wholeMillis : T → Except ClockFault Int

namespace ClockTime

variable {T : Type} [ClockTime T]

def lesser (first second : T) : T := if less second first then second else first

def greater (first second : T) : T := if less first second then second else first

end ClockTime

def truncated (x : Float) : Except ClockFault Int :=
  if x.isNaN then .error .notANumber
  else if x.isInf then .error .infinite
  else
    match Number.Double.ofFloat x with
    | .finite negative mantissa exponent =>
      let magnitude : Int :=
        if exponent < 0 then mantissa / Nat.pow 2 exponent.natAbs
        else mantissa * Nat.pow 2 exponent.natAbs
      .ok (if negative then -magnitude else magnitude)
    | _ => .error .notANumber

instance : ClockTime Float where
  start := 0.0
  ofMillis millis :=
    match Number.ofInteger millis with
    | some x => .ok (x / 1000.0)
    | none => .error .tooLarge
  later reading span := reading + span
  since reading earlier := reading - earlier
  isOver span := span ≤ 0.0
  less first second := first < second
  wholeMillis span := truncated (span * 1000.0)

end GuardedSteps
