import GuardedSteps.Guard.Spec
import GuardedSteps.Run.Delay

/-!
Scripted actions. An action has a script with one entry for each of its calls; the last entry serves
for all further calls. An entry is a row of acts, among them running and awaiting further actions.
-/

namespace GuardedSteps

/-- How a chain is given: as a step text, as no text at all, or as a description. -/
inductive ChainSource
  | text (text : String)
  | noText
  | spec (spec : GuardSpec)

mutual
/-- What an action does in one of its calls, act by act. -/
inductive Act
  | set (name : String) (value : Value)
  | sleep (millis : Int)
  | cancel
  | run (source : ChainSource) (action : Script)
  | await (action : Script) (timeout : Option Int)
  | until (millis : Int)
  | raise (type : String) (argument : Option String)

/-- A named action with the entries of its script. -/
inductive Script
  | mk (name : String) (entries : List (List Act))
end

namespace Script

def name : Script → String
  | .mk name _ => name

def label (script : Script) : String := "<action " ++ script.name ++ ">"

end Script

structure Call (T : Type) where
  name : String
  timeout : Int
  time : T

/-- What is remembered of the actions of a session: their calls, newest first, and how often each
action was called. Actions are told apart by number. -/
structure Memory (T : Type) where
  calls : List (Call T) := []
  counts : List (Nat × Nat) := []
  total : Nat := 0
  nextAction : Nat := 0
  nextType : Nat := 0

structure Actor where
  number : Nat
  script : Script

abbrev Stage (T : Type) : Type := World T Actor (Memory T)

namespace Stage

variable {T : Type} [ClockTime T]

def chainOf : ChainSource → Effect (Stage T) Chain
  | .text text => World.parse text
  | .noText => Effect.done [.always]
  | .spec spec => fun stage =>
    let resolve (name : String) := (Resolution.resolve stage.registry name).mapError Failure.resolution
    some (spec.build resolve, stage)

def newNumber : Effect (Stage T) Nat := fun stage =>
  let memory := stage.memory
  some (.ok memory.nextAction, { stage with memory := { memory with nextAction := memory.nextAction + 1 } })

def maxCalls : Nat := 20000

def call (number : Nat) (name : String) : Effect (Stage T) Nat := fun stage =>
  let memory := stage.memory
  let count := (memory.counts.lookup number).getD 0
  let called := { memory with
    calls := ⟨name, stage.defaultTimeout, stage.now⟩ :: memory.calls
    counts := (number, count + 1) :: memory.counts.filter (·.1 != number)
    total := memory.total + 1 }
  if maxCalls < called.total then none else some (.ok count, { stage with memory := called })

def untilTime (millis : Int) : Effect (Stage T) Unit := fun stage =>
  match ClockTime.ofMillis millis with
  | .error fault => some (.error (.clock fault), stage)
  | .ok time =>
    if ClockTime.less stage.now time then some (.error (.raised .assertionError (some (.text "not yet"))), stage)
    else some (.ok (), stage)

def raiseNamed (type : String) (argument : Option String) : Effect (Stage T) Unit :=
  (World.resolveType type).andThen fun type => Effect.raise (Failure.raising type (argument.map .text))

def await (attempts : Nat) (perform : Effect (Stage T) Unit) (timeout : Option Int) :
    Effect (Stage T) Unit := fun stage =>
  Polling.untilAsserted attempts (timeout.getD stage.defaultTimeout) perform stage

end Stage

mutual
def Act.perform {T : Type} [ClockTime T] (attempts : Nat) : Act → Effect (Stage T) Unit
  | .set name value => Effect.change fun stage =>
    { stage with bindings := stage.bindings.set name value }
  | .sleep millis => World.sleepMillis millis
  | .cancel => Effect.change World.cancelPending
  | .run source action =>
    (Stage.chainOf source).andThen fun chain => Stage.newNumber.andThen fun number =>
      chain.run attempts (Script.perform attempts action number) ⟨number, action⟩
  | .await action timeout =>
    Stage.newNumber.andThen fun number =>
      Stage.await attempts (Script.perform attempts action number) timeout
  | .until millis => Stage.untilTime millis
  | .raise type argument => Stage.raiseNamed type argument

def Act.performAll {T : Type} [ClockTime T] (attempts : Nat) : List Act → Effect (Stage T) Unit
  | [] => Effect.done ()
  | act :: rest => (Act.perform attempts act).andThen fun _ => Act.performAll attempts rest

def Act.performEntry {T : Type} [ClockTime T] (attempts : Nat) :
    List (List Act) → Nat → Effect (Stage T) Unit
  | [], _ => Effect.done ()
  | [acts], _ => Act.performAll attempts acts
  | acts :: _ :: _, 0 => Act.performAll attempts acts
  | _ :: next :: more, count + 1 => Act.performEntry attempts (next :: more) count

def Script.perform {T : Type} [ClockTime T] (attempts : Nat) : Script → Nat → Effect (Stage T) Unit
  | .mk name entries, number =>
    (Stage.call number name).andThen fun count => Act.performEntry attempts entries count
end

def Stage.actions {T : Type} [ClockTime T] (attempts : Nat) : Actions T Actor (Memory T) where
  perform actor := Script.perform attempts actor.script actor.number
  label actor := actor.script.label

end GuardedSteps
