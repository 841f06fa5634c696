import GuardedSteps.Validation.Field

/-!
The settings of a run: how long a step is waited for, how often it is tried, and how long it is
waited for when it has to fail.
-/

namespace GuardedSteps

structure Settings where
  defaultTimeout : Int
  pollInterval : Int
  invertTimeout : Int
  deriving DecidableEq, Repr

namespace Settings

open Validation

def standard : Settings := ⟨10000, 10, 200⟩

structure Fields where
  defaultTimeout : Option Value := none
  pollInterval : Option Value := none
  invertTimeout : Option Value := none

def check (field : String) (default : Int) (bound : Int → Except Complaint Int) (given : Option Value) :
    Except (List Detail) Int :=
  match given with
  | none => .ok default
  | some value => checked field (do bound (← asWhole value))

/-- Settings from the fields that are given; waits may be zero, the pause between two attempts may
not. -/
def ofFields (fields : Fields) : Except (List Detail) Settings := do
  let (defaultTimeout, pollInterval, invertTimeout) ←
    both (check "default_timeout_ms" standard.defaultTimeout (atLeast 0) fields.defaultTimeout)
      (both (check "poll_interval_ms" standard.pollInterval (greaterThan 0) fields.pollInterval)
        (check "invert_timeout_ms" standard.invertTimeout (atLeast 0) fields.invertTimeout))
  return ⟨defaultTimeout, pollInterval, invertTimeout⟩

def fieldsOf (given : List (String × Value)) : Fields :=
  ⟨given.lookup "default_timeout_ms", given.lookup "poll_interval_ms", given.lookup "invert_timeout_ms"⟩

def fieldsOfEnvironment (environment : List (String × String)) : Fields :=
  let field (name : String) := (environment.lookup name).map Value.text
  ⟨field "STEPGUARD_DEFAULT_TIMEOUT_MS", field "STEPGUARD_POLL_INTERVAL_MS",
    field "STEPGUARD_INVERT_TIMEOUT_MS"⟩

example : (ofFields {}).toOption = some standard := by decide +kernel

end Settings

end GuardedSteps
