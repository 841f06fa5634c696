import GuardedSteps.Run.Condition
import GuardedSteps.Run.Polling

/-!
Running a step behind its guards. Each guard decides what becomes of the run of everything behind
it; behind the last guard the action of the step is performed.
-/

namespace GuardedSteps

variable {T A M : Type} [ClockTime T]

/-- Waits for the rest with another default timeout, which is put back however the rest ends. -/
def World.withTimeout {α : Type} (millis : Int) (rest : Effect (World T A M) α) :
    Effect (World T A M) α := fun world =>
  (rest { world with defaultTimeout := millis }).map fun ended =>
    (ended.1, { ended.2 with defaultTimeout := world.defaultTimeout })

def Result.inverted : Result → Result
  | .passed => .failed .unexpectedPass
  | .failed _ => .passed
  | .skipped => .skipped

/-- Runs an action behind rules. `perform` is what the action does in the foreground; behind a delay
the action is only put among the waiting ones. -/
def evaluate (attempts : Nat) (perform : Effect (World T A M) Unit) (action : A) :
    List Rule → Effect (World T A M) Result
  | [] => Result.ofAction perform
  | .passthrough :: rest => evaluate attempts perform action rest
  | .conditionalSkip condition :: rest => fun world =>
    match Condition.check world.bindings condition with
    | .met => evaluate attempts perform action rest world
    | .unmet clause => some (.ok .skipped, world.note (.unmet clause))
    | .failed failure => some (.ok (.failed failure), world)
  | .invert :: rest => fun world =>
    let run := world.settings.invertTimeout
    (World.withTimeout run (evaluate attempts perform action rest)).andThen
      (fun result => Effect.done result.inverted) world
  | .delay millis :: rest => fun world => some (.ok .passed, world.delay millis rest action)
  | .within millis :: rest =>
    Polling.polled (Polling.untilAsserted attempts millis) (evaluate attempts perform action rest)
  | .during millis :: rest =>
    Polling.polled (Polling.duringWindow attempts millis) (evaluate attempts perform action rest)
  | .expect type :: rest =>
    Polling.polled (Polling.expecting type) (evaluate attempts perform action rest)
  | .unknown kind :: _ => Effect.raise (.unknownKind kind)

/-- Runs an action behind a chain and raises what the result stands for. -/
def Chain.run (attempts : Nat) (perform : Effect (World T A M) Unit) (action : A) (chain : Chain) :
    Effect (World T A M) Unit :=
  (evaluate attempts perform action (chain.map (·.rule))).andThen Result.settle

end GuardedSteps
