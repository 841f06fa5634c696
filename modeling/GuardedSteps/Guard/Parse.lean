import GuardedSteps.Failure
import GuardedSteps.Phrase.Read
import GuardedSteps.Phrase.Scan
import GuardedSteps.Validation.Field

/-!
Guards from a step text. Each phrase of the text becomes a guard, and behind the last one stands a
guard that runs the step itself. The guards are built from the last to the first, so the last
phrase that cannot be a guard is the one that is reported.
-/

namespace GuardedSteps

abbrev Resolver := String → Except Failure Candidate

def Registry.resolver (registry : Registry) : Resolver := fun name =>
  match Resolution.resolve registry name with
  | .ok type => .ok (.errorType type)
  | .error fault => .error (.resolution fault)

def Registry.uncheckedResolver (registry : Registry) : Resolver := fun name =>
  match registry.lookup name with
  | some candidate => .ok candidate
  | none => .error (.raised .keyError (some (.text name)))

namespace Guard

open Text Validation

/-- Reports a complaint about a field of a guard together with the phrase of the guard. -/
def refuse {α : Type} (phrase : List Char) (complaint : Complaint) (place : List String) :
    Except Failure α :=
  .error (.invalidGuard (String.ofList phrase) [⟨complaint, place⟩])

def reported (phrase : List Char) : Failure → Failure
  | .validation details => .invalidGuard (String.ofList phrase) details
  | failure => failure

def ruleOf (resolve : Resolver) (cs : List Char) : Phrase → Except Failure Rule
  | .inversion => .ok .invert
  | .condition clause => .ok (.conditionalSkip (String.ofList clause))
  | .timed timing digits =>
    match Number.readInteger digits with
    | .error fault => .error (.millis fault)
    | .ok value =>
      match boundedMillis value with
      | .error complaint => refuse cs complaint ["millis"]
      | .ok millis => .ok (.timed timing millis)
  | .expectation _ typeName => do
    match ← (resolve (String.ofList typeName)).mapError (reported cs) with
    | .errorType type => .ok (.expect type)
    | .valueType _ | .other => refuse cs .noErrorType ["exception_type"]
    | .nothing => refuse cs (.lacks .expectException "an exception_type") []

def parsePhrase (resolve : Resolver) (phrase : List Char) : Except Failure Guard :=
  let cs := trim phrase
  match Phrase.read? cs with
  | none => .error (.invalidTiming (String.ofList cs))
  | some phrase => (ruleOf resolve cs phrase).map (⟨·, {}⟩)

def parsePhrases (resolve : Resolver) (next : Chain) : List Phrase → Except Failure Chain
  | [] => .ok next
  | phrase :: rest => do
    let chain ← parsePhrases resolve next rest
    return (← parsePhrase resolve phrase.words) :: chain

/-- The chain of a step text. -/
def parse (resolve : Resolver) (text : List Char) : Except Failure Chain :=
  parsePhrases resolve [always] (Phrase.extract text).phrases

end Guard

end GuardedSteps
