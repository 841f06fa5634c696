import GuardedSteps.Session.Step

/-!
Whole sessions: how one starts, and what its answers are. The clock of a session starts at zero and
counts seconds as doubles; it is reported in whole microseconds.
-/

namespace GuardedSteps

namespace Session

structure Start where
  bindings : Variables
  settings : Settings.Fields
  types : List (String × TypeSpec)

def registerAll : List (String × TypeSpec) → Effect (Stage Float) Unit
  | [] => Effect.done ()
  | (name, spec) :: rest =>
    (Stage.register spec (some name)).andThen fun _ => registerAll rest

def maxAttempts : Nat := 1000000

/-- The answers of a session, or the failure to start it; none if it does not come to an end. -/
def answers (start : Start) (steps : List Step) : Option (Except Failure (List (Answer Float))) :=
  match Settings.ofFields start.settings with
  | .error details => some (.error (.validation details))
  | .ok settings => do
    match ← registerAll start.types (.opening start.bindings settings {}) with
    | (.error failure, _) => return .error failure
    | (.ok (), stage) => return .ok (← Step.answers maxAttempts steps stage).1

/-! ## Reported times -/

def nearestEven (numerator denominator : Nat) : Nat :=
  let quotient := numerator / denominator
  let twice := 2 * (numerator % denominator)
  if denominator < twice || (twice == denominator && quotient % 2 == 1) then quotient + 1 else quotient

def micros (time : Float) : Int :=
  match Number.Double.ofFloat (time * 1000000.0) with
  | .finite negative mantissa exponent =>
    let parts := Number.scale 2 exponent
    let magnitude : Int := nearestEven (mantissa * parts.1) parts.2
    if negative then -magnitude else magnitude
  | _ => 0

example : nearestEven 5 2 = 2 ∧ nearestEven 7 2 = 4 ∧ nearestEven 8 3 = 3 := by decide

end Session

end GuardedSteps
