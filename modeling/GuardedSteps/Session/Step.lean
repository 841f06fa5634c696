import GuardedSteps.ErrorType.Declared
import GuardedSteps.Session.Script

/-!
Sessions. A session is a row of steps in one world; each step is answered with what came of it and
with what has changed since the answer before. A failure ends a step and not the session.
-/

namespace GuardedSteps

inductive PlainStep
  | set (name : String) (value : Value)
  | delete (name : String)
  | get (token : String)
  | resolve (template : String)
  | flag (template : String)
  | equals (actual expected : Value)
  | register (type : TypeSpec) (name : Option String)
  | resolveType (name : String)
  | awaitUntil (action : Script) (timeout : Option Int)
  | awaitDuring (action : Script) (millis : Int)
  | threw (action : Script) (type : String)
  | evaluate (source : ChainSource) (action : Script)
  | run (source : ChainSource) (action : Script)
  | advance (millis : Int)
  | cancel

inductive Step
  | plain (step : PlainStep)
  | override (millis : Int) (steps : List Step) (raising : Option String)

structure Report (T : Type) where
  time : T
  defaultTimeout : Int
  pending : Nat
  waiting : Nat
  calls : List (Call T)
  log : List LogEntry

mutual
inductive Outcome (T : Type)
  | done
  | value (value : Value)
  | names (names : List String)
  | result (result : Result)
  | ran (delayed : List Ran)
  | raised (failure : Failure)
  | inner (answers : List (Answer T)) (raised : Option Failure)

inductive Answer (T : Type)
  | mk (outcome : Outcome T) (report : Report T)
end

namespace Stage

variable {T : Type} [ClockTime T]

/-! ## Answers -/

/-- The report on a world, which forgets then what has been reported. -/
def report (stage : Stage T) : Report T × Stage T :=
  (⟨stage.now, stage.defaultTimeout, stage.pending.length, stage.waiting.length,
      stage.memory.calls.reverse, stage.log.reverse⟩,
    { stage with log := [], memory := { stage.memory with calls := [] } })

def outcome {α : Type} (effect : Effect (Stage T) α) (encode : α → Outcome T) (stage : Stage T) :
    Option (Outcome T × Stage T) :=
  (effect stage).map fun ended =>
    match ended.1 with
    | .ok value => (encode value, ended.2)
    | .error failure => (.raised failure, ended.2)

/-! ## Types -/

def ownName : Candidate → Except Failure String
  | .errorType type => .ok type.name
  | .valueType name => .ok name
  | .other | .nothing =>
    .error (.raised .attributeError (some (.text "'NoneType' object has no attribute '__name__'")))

def register (spec : TypeSpec) (name : Option String) : Effect (Stage T) (List String) := fun stage =>
  let serial := stage.memory.nextType
  let named : Except Failure (Candidate × String) := do
    let candidate ← (stage.registry.candidate serial spec).mapError .resolution
    match name.filter (· != "") with
    | some name => return (candidate, name)
    | none => return (candidate, ← ownName candidate)
  match named with
  | .error failure => some (.error failure, stage)
  | .ok (candidate, name) =>
    let registry := stage.registry.register name candidate
    let names := (registry.map (·.1)).mergeSort fun first second => !decide (second < first)
    some (.ok names,
      { stage with registry := registry, memory := { stage.memory with nextType := serial + 1 } })

/-! ## Actions and chains -/

def actor (script : Script) : Effect (Stage T) Actor :=
  newNumber.andThen fun number => Effect.done ⟨number, script⟩

def perform (attempts : Nat) (actor : Actor) : Effect (Stage T) Unit :=
  Script.perform attempts actor.script actor.number

def evaluateNew (attempts : Nat) (source : ChainSource) (script : Script) : Effect (Stage T) Result :=
  (chainOf source).andThen fun chain => (actor script).andThen fun actor =>
    GuardedSteps.evaluate attempts (perform attempts actor) actor (chain.map (·.rule))

/-! ## Single steps -/

def outcomeOf (attempts : Nat) : PlainStep → Stage T → Option (Outcome T × Stage T)
  | .set name value, stage => some (.done, { stage with bindings := stage.bindings.set name value })
  | .delete name, stage =>
    if (stage.bindings.lookup name).isSome then
      some (.done, { stage with bindings := stage.bindings.erase name })
    else some (.raised (.raised .keyError (some (.text name))), stage)
  | .get token, stage =>
    let found := (stage.bindings.getOrSelf token).mapError fun fault => .template (.index fault)
    outcome (Effect.ofExcept found) .value stage
  | .resolve template, stage =>
    let found := (Template.resolve stage.bindings template).mapError .template
    outcome (Effect.ofExcept found) .value stage
  | .flag template, stage =>
    let found := (Template.resolveFlag stage.bindings template).mapError .template
    outcome (Effect.ofExcept found) (fun flag => .value (.text ("?" ++ flag))) stage
  | .equals actual expected, stage =>
    outcome (Effect.ofExcept ((Comparison.meets actual expected).mapError .comparison))
      (fun _ => .done) stage
  | .register type name, stage => outcome (register type name) .names stage
  | .resolveType name, stage =>
    outcome (World.resolveType name) (fun type => .value (.text type.name)) stage
  | .awaitUntil script timeout, stage =>
    outcome ((actor script).andThen fun actor => await attempts (perform attempts actor) timeout)
      (fun _ => .done) stage
  | .awaitDuring script millis, stage =>
    outcome ((actor script).andThen fun actor =>
        Polling.duringWindow attempts millis (perform attempts actor))
      (fun _ => .done) stage
  | .threw script type, stage =>
    outcome ((actor script).andThen fun actor => (World.resolveType type).andThen fun type =>
        Polling.expecting type (perform attempts actor))
      (fun _ => .done) stage
  | .evaluate source script, stage => outcome (evaluateNew attempts source script) .result stage
  | .run source script, stage =>
    outcome ((evaluateNew attempts source script).andThen Result.settle) (fun _ => .done) stage
  | .advance millis, stage => outcome (World.advance attempts (actions attempts) millis) .ran stage
  | .cancel, stage =>
    (World.runCancelled attempts (actions attempts) stage.cancelPending).map fun (ran, stage) =>
      (.ran ran, stage)

def raisedAfter (stage : Stage T) (type : Option String) : Option Failure :=
  type.map fun name =>
    match Resolution.resolve stage.registry name with
    | .ok type => Failure.raising type (some (.text "override"))
    | .error fault => .resolution fault

end Stage

mutual
def Step.answer {T : Type} [ClockTime T] (attempts : Nat) : Step → Stage T → Option (Answer T × Stage T)
  | .override millis steps type, stage => do
    let (answers, inner) ← Step.answers attempts steps { stage with defaultTimeout := millis }
    let failure := Stage.raisedAfter inner type
    let (report, after) := Stage.report { inner with defaultTimeout := stage.defaultTimeout }
    return (.mk (.inner answers failure) report, after)
  | .plain step, stage => do
    let (outcome, stage) ← Stage.outcomeOf attempts step stage
    let (report, stage) := stage.report
    return (.mk outcome report, stage)

def Step.answers {T : Type} [ClockTime T] (attempts : Nat) :
    List Step → Stage T → Option (List (Answer T) × Stage T)
  | [], stage => some ([], stage)
  | step :: rest, stage => do
    let (answer, stage) ← Step.answer attempts step stage
    let (answers, stage) ← Step.answers attempts rest stage
    return (answer :: answers, stage)
end

end GuardedSteps
