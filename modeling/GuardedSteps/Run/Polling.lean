import GuardedSteps.Run.World

/-!
Polling. An operation is called again and again until it succeeds, or as long as it succeeds; between
two calls time passes. Operations and polls raise their failures. The rest of a chain takes part as
an operation too: a skip is then raised as a signal like any other, and a mark that is set beside the
world tells it from the failures of the poll. Each loop is bounded by a number of attempts.
-/

namespace GuardedSteps

/-- States in which time passes, and that know how long to pause between two attempts. -/
class Clocked (σ : Type) (T : outParam Type) where
  now : σ → T
  /-- Lets a span pass, unless the platform refuses to sleep for so long. -/
  sleep : T → σ → Except ClockFault σ
  pollInterval : σ → Int

-- The waits of guards are bounded, and the clock of a scenario is not that of the platform.
instance {T A M : Type} [ClockTime T] : Clocked (World T A M) T where
  now world := world.now
  sleep span world := .ok (world.sleep span)
  pollInterval world := world.settings.pollInterval

instance {σ T : Type} [Clocked σ T] : Clocked (σ × Bool) T where
  now state := Clocked.now state.1
  sleep span state := (Clocked.sleep span state.1).map fun after => (after, state.2)
  pollInterval state := Clocked.pollInterval state.1

namespace Polling

variable {σ T : Type} [ClockTime T] [Clocked σ T]

/-- Sleeps for a number of milliseconds, or for what remains if that is less, and goes on. Without a
pause that the clock can measure and the platform grants there is no further attempt. -/
def pause (millis : Int) (remaining : T) (next : Effect σ Unit) : Effect σ Unit := fun state =>
  match ClockTime.ofMillis millis with
  | .error fault => some (.error (.clock fault), state)
  | .ok interval =>
    match Clocked.sleep (ClockTime.lesser interval remaining) state with
    | .ok after => next after
    | .error fault => some (.error (.clock fault), state)

def withDeadline (millis : Int) (next : T → Effect σ Unit) : Effect σ Unit := fun state =>
  match ClockTime.ofMillis millis with
  | .ok span => next (ClockTime.later (Clocked.now state) span) state
  | .error fault => some (.error (.clock fault), state)

/-! ## Until an operation succeeds -/

/-- Calls an operation until it succeeds, or fails with something else than an assertion. At the
deadline the last assertion is reported. -/
def untilLoop (operation : Effect σ Unit) (millis interval : Int) (deadline : T) :
    (attempts : Nat) → Effect σ Unit
  | 0 => fun _ => none
  | attempts + 1 => fun state =>
    match operation state with
    | some (.error failure, state) =>
      if failure.isAssertion then
        let remaining := ClockTime.since deadline (Clocked.now state)
        if ClockTime.isOver remaining then
          some (.error (failure.reportedAs (.notFulfilled millis failure)), state)
        else pause interval remaining (untilLoop operation millis interval deadline attempts) state
      else some (.error failure, state)
    | ended => ended

def untilAsserted (attempts : Nat) (millis : Int) (operation : Effect σ Unit) : Effect σ Unit :=
  fun state =>
    let interval := Clocked.pollInterval state
    withDeadline millis (fun deadline => untilLoop operation millis interval deadline attempts) state

/-! ## As long as an operation succeeds -/

def broken (millis : Int) (opened : T) (failure : Failure) : Effect σ Unit := fun state =>
  match ClockTime.wholeMillis (ClockTime.since (Clocked.now state) opened) with
  | .ok elapsed => some (.error (failure.reportedAs (.brokenWindow elapsed millis failure)), state)
  | .error fault => some (.error (.clock fault), state)

/-- Calls an operation until the deadline, as long as it succeeds. -/
def duringLoop (operation : Effect σ Unit) (millis interval : Int) (opened deadline : T) :
    (attempts : Nat) → Effect σ Unit
  | 0 => fun _ => none
  | attempts + 1 => fun state =>
    match operation state with
    | some (.ok (), state) =>
      let remaining := ClockTime.since deadline (Clocked.now state)
      if ClockTime.isOver remaining then some (.ok (), state)
      else
        pause interval remaining (duringLoop operation millis interval opened deadline attempts) state
    | some (.error failure, state) =>
      if failure.isOrdinary then broken millis opened failure state
      else some (.error failure, state)
    | none => none

def duringWindow (attempts : Nat) (millis : Int) (operation : Effect σ Unit) : Effect σ Unit :=
  fun state =>
    let interval := Clocked.pollInterval state
    let opened := Clocked.now state
    withDeadline millis
      (fun deadline => duringLoop operation millis interval opened deadline attempts) state

/-! ## Expected errors -/

/-- Turns an error of the expected type into a success, and a success into a failure. Signals to
leave the program can be expected too. -/
def expecting {σ : Type} (expected : ErrorType) (operation : Effect σ Unit) : Effect σ Unit :=
  fun state =>
    match operation state with
    | some (.ok (), state) => some (.error (.nothingThrown expected.name), state)
    | some (.error failure, state) =>
      if failure.type.isA expected then some (.ok (), state)
      else if failure.isOrdinary then
        some (.error (failure.reportedAs (.otherThrown expected.name failure)), state)
      else some (.error failure, state)
    | none => none

/-! ## The rest of a chain as an operation -/

/-- Runs the rest of a chain and raises its failure. A skip sets the mark and is raised as the signal
of a skipped step, so that a poll ends. -/
def delegated {σ : Type} (rest : Effect σ Result) : Effect (σ × Bool) Unit := fun (state, skipped) =>
  (rest state).map fun (ended, state) =>
    match ended with
    | .ok .passed => (.ok (), (state, skipped))
    | .ok .skipped => (.error .skipped, (state, true))
    | .ok (.failed failure) | .error failure => (.error failure, (state, skipped))

/-- The end of a poll as a result. Once a skip has been marked, nothing else counts that the poll may
have made of the signal; a signal to leave the program is no result. -/
def concluded (ended : Except Failure Unit) (skipped : Bool) : Except Failure Result :=
  match ended with
  | .ok () => .ok (if skipped then .skipped else .passed)
  | .error failure =>
    if failure.isOrdinary then .ok (if skipped then .skipped else .failed failure) else .error failure

def polled {σ : Type} (poll : Effect (σ × Bool) Unit → Effect (σ × Bool) Unit)
    (rest : Effect σ Result) : Effect σ Result := fun state =>
  (poll (delegated rest) (state, false)).map fun (ended, (state, skipped)) =>
    (concluded ended skipped, state)

end Polling

end GuardedSteps
