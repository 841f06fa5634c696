import GuardedSteps.Run.Result
import GuardedSteps.Guard.Parse
import GuardedSteps.Settings

/-!
The world in which steps run: the variables and settings of a scenario, its clock, the delayed steps
that are waiting, and what the actions of steps remember.
-/

namespace GuardedSteps

inductive LogEntry
  | parsed (kinds : List String) (text : String)
  | unmet (clause : String)
  | cancelled (action : String)
  | failed (action : String)
  | crashed (action : String)
  | ran (action : String)
  deriving DecidableEq, Repr

def LogEntry.text : LogEntry → String
  | .parsed kinds text =>
    "DEBUG: parsed guards " ++ Value.written (.collection .list (kinds.map .text)) ++ " from '" ++ text ++ "'"
  | .unmet clause => "DEBUG: skipping step, condition '" ++ clause ++ "' is not met"
  | .cancelled action => "DEBUG: cancelled async step " ++ action
  | .failed action => "ERROR: async step " ++ action ++ " failed"
  | .crashed action => "ERROR: async step " ++ action ++ " crashed"
  | .ran action => "DEBUG: ran async step " ++ action

def LogEntry.ofParsed? (text : String) (chain : Chain) : Option LogEntry :=
  if (Phrase.extract text.toList).phrases.isEmpty then none
  else some (.parsed (chain.map (·.rule.kindName)) text)

structure Waiting (T A : Type) where
  serial : Nat
  started : T
  millis : Nat
  rules : List Rule
  action : A

/-- The world of one scenario. `T` are readings of its clock, `A` are the actions of its steps, and
`M` is what the actions remember. -/
structure World (T A M : Type) where
  bindings : Variables
  settings : Settings
  defaultTimeout : Int
  registry : Registry
  now : T
  pending : List Nat
  /-- The delays that have been cancelled. -/
  stopped : List Nat
  /-- The delayed steps in the order in which they were started. -/
  waiting : List (Waiting T A)
  nextSerial : Nat
  /-- The notes, newest first. -/
  log : List LogEntry
  memory : M

namespace World

variable {T A M : Type} [ClockTime T]

def opening (bindings : Variables) (settings : Settings) (memory : M) : World T A M where
  bindings := bindings
  settings := settings
  defaultTimeout := settings.defaultTimeout
  registry := []
  now := ClockTime.start
  pending := []
  stopped := []
  waiting := []
  nextSerial := 0
  log := []
  memory := memory

def note (entry : LogEntry) (world : World T A M) : World T A M :=
  { world with log := entry :: world.log }

/-! ## Time -/

def sleep (span : T) (world : World T A M) : World T A M :=
  { world with now := ClockTime.later world.now span }

def sleepMillis (millis : Int) : Effect (World T A M) Unit := fun world =>
  match ClockTime.ofMillis millis with
  | .ok span => some (.ok (), world.sleep span)
  | .error fault => some (.error (.clock fault), world)

/-! ## Delays -/

def delay (millis : Nat) (rules : List Rule) (action : A) (world : World T A M) : World T A M :=
  { world with
    pending := world.pending ++ [world.nextSerial]
    waiting := world.waiting ++ [⟨world.nextSerial, world.now, millis, rules, action⟩]
    nextSerial := world.nextSerial + 1 }

def release (serial : Nat) (world : World T A M) : World T A M :=
  { world with pending := world.pending.filter (· != serial) }

/-- Stops all delays that are pending now. Later ones are not affected. -/
def cancelPending (world : World T A M) : World T A M :=
  { world with pending := [], stopped := world.stopped ++ world.pending }

/-! ## Guards from texts -/

def parse (text : String) : Effect (World T A M) Chain := fun world =>
  match Guard.parse world.registry.resolver text.toList with
  | .error failure => some (.error failure, world)
  | .ok chain =>
    match LogEntry.ofParsed? text chain with
    | some entry => some (.ok chain, world.note entry)
    | none => some (.ok chain, world)

def resolveType (name : String) : Effect (World T A M) ErrorType := fun world =>
  Effect.ofExcept ((Resolution.resolve world.registry name).mapError .resolution) world

end World

end GuardedSteps
