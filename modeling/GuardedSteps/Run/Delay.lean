import GuardedSteps.Run.Evaluate

/-!
Running delayed steps. A delayed step runs once, when its time has come or when it has been
cancelled; in the second case it only leaves a note.
-/

namespace GuardedSteps

/-- What has to be known of actions to run them later. -/
structure Actions (T A M : Type) where
  perform : A → Effect (World T A M) Unit
  label : A → String

/-- A delayed step that has run, and the failure it ended in if it was a signal to leave the
program. -/
structure Ran where
  millis : Nat
  failure : Option Failure

def Ran.name (ran : Ran) : String := "stepguard-after-" ++ Nat.repr ran.millis ++ "ms"

namespace World

variable {T A M : Type} [ClockTime T]

/-! ## One delayed step -/

/-- Runs a delayed step that has been taken from the waiting ones. Its failures are noted only. -/
def runDelayed (attempts : Nat) (actions : Actions T A M) (delayed : Waiting T A) :
    Effect (World T A M) Unit := fun world =>
  let label := actions.label delayed.action
  let released := world.release delayed.serial
  if world.stopped.contains delayed.serial then
    some (.ok (), (released.note (.cancelled label)).note (.ran label))
  else
    match evaluate attempts (actions.perform delayed.action) delayed.action delayed.rules released with
    | none => none
    | some (.ok (.failed _), world) => some (.ok (), (world.note (.failed label)).note (.ran label))
    | some (.ok _, world) => some (.ok (), world.note (.ran label))
    | some (.error failure, world) =>
      if failure.isOrdinary then some (.ok (), (world.note (.crashed label)).note (.ran label))
      else some (.error failure, world.note (.ran label))

def runAll (attempts : Nat) (actions : Actions T A M) :
    List (Waiting T A) → World T A M → Option (List Ran × World T A M)
  | [], world => some ([], world)
  | delayed :: rest, world => do
    let (ended, world) ← runDelayed attempts actions delayed world
    let (ran, world) ← runAll attempts actions rest world
    let failure := match ended with
      | .ok () => none
      | .error failure => some failure
    return (⟨delayed.millis, failure⟩ :: ran, world)

/-! ## Cancelled steps -/

def runCancelled (attempts : Nat) (actions : Actions T A M) (world : World T A M) :
    Option (List Ran × World T A M) :=
  let isStopped (delayed : Waiting T A) := world.stopped.contains delayed.serial
  runAll attempts actions (world.waiting.filter isStopped)
    { world with waiting := world.waiting.filter (!isStopped ·) }

/-! ## Letting time pass -/

def wake? (delayed : Waiting T A) : Option T :=
  match ClockTime.ofMillis (T := T) delayed.millis with
  | .ok span => some (ClockTime.later delayed.started span)
  | .error _ => none

/-- The delayed step that is due first, up to a reading; of several the one started first. -/
def firstDue (goal : T) : List (Waiting T A) → Option (T × Waiting T A)
  | [] => none
  | delayed :: rest =>
    let later := firstDue goal rest
    match wake? delayed with
    | none => later
    | some wake =>
      if ClockTime.less goal wake then later
      else match later with
        | some (other, found) =>
          if ClockTime.less other wake then some (other, found) else some (wake, delayed)
        | none => some (wake, delayed)

def runDue (attempts : Nat) (actions : Actions T A M) (goal : T) :
    (steps : Nat) → World T A M → Option (List Ran × World T A M)
  | 0, _ => none
  | steps + 1, world =>
    match firstDue goal world.waiting with
    | none => some ([], world)
    | some (wake, delayed) => do
      let waiting := world.waiting.filter (·.serial != delayed.serial)
      let (first, world) ← runAll attempts actions [delayed]
        { world with waiting := waiting, now := ClockTime.greater world.now wake }
      let (cancelled, world) ← runCancelled attempts actions world
      let (rest, world) ← runDue attempts actions goal steps world
      return (first ++ cancelled ++ rest, world)

def advance (attempts : Nat) (actions : Actions T A M) (millis : Int) :
    Effect (World T A M) (List Ran) := fun world =>
  match ClockTime.ofMillis millis with
  | .error fault => some (.error (.clock fault), world)
  | .ok span => do
    let goal := ClockTime.later world.now span
    let (cancelled, world) ← runCancelled attempts actions world
    let (due, world) ← runDue attempts actions goal attempts world
    return (.ok (cancelled ++ due), { world with now := ClockTime.greater world.now goal })

end World

end GuardedSteps
