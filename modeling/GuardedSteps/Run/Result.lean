import GuardedSteps.Failure

/-!
Results of runs, and effects. A failure travels as a result from guard to guard; only what leaves a
chain altogether is raised again.
-/

namespace GuardedSteps

/-- How a step ends behind its guards. -/
inductive Result
  | passed
  | failed (failure : Failure)
  | skipped

/-- What an effect does to a state: it ends in a value or in a failure that is raised, and leaves
another state. It is none when a bound on the number of attempts is reached before it ends. -/
abbrev Effect (σ α : Type) : Type := σ → Option (Except Failure α × σ)

namespace Effect

variable {σ α β : Type}

def done (value : α) : Effect σ α := fun state => some (.ok value, state)

def raise (failure : Failure) : Effect σ α := fun state => some (.error failure, state)

def andThen (first : Effect σ α) (next : α → Effect σ β) : Effect σ β := fun state =>
  match first state with
  | some (.ok value, state) => next value state
  | some (.error failure, state) => some (.error failure, state)
  | none => none

def ofExcept : Except Failure α → Effect σ α
  | .ok value => done value
  | .error failure => raise failure

def change (update : σ → σ) : Effect σ Unit := fun state => some (.ok (), update state)

end Effect

namespace Result

variable {σ : Type}

def status : Result → String
  | .passed => "PASSED"
  | .failed _ => "FAILED"
  | .skipped => "SKIPPED"

def settle : Result → Effect σ Unit
  | .passed => Effect.done ()
  | .failed failure => Effect.raise failure
  | .skipped => Effect.raise .skipped

/-- The result of a step without guards. The signal of a skipped step is no failure. -/
def ofAction (perform : Effect σ Unit) : Effect σ Result := fun state =>
  match perform state with
  | some (.ok (), state) => some (.ok .passed, state)
  | some (.error failure, state) =>
    if failure.isSkip then some (.ok .skipped, state)
    else if failure.isOrdinary then some (.ok (.failed failure), state)
    else some (.error failure, state)
  | none => none

end Result

end GuardedSteps
