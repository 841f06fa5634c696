import GuardedSteps.ErrorType.Standard
import GuardedSteps.Number.DecimalText
import GuardedSteps.Phrase.Basic

/-!
Guards. A guard is a rule about the rest of a step, and a chain is a row of guards from the outermost
to the innermost. The rule of a guard says all that matters when a step runs.
-/

namespace GuardedSteps

inductive Kind
  | passthrough
  | conditionalSkip
  | invert
  | asyncDelay
  | withinTimeout
  | duringDuration
  | expectException
  deriving DecidableEq, Repr

namespace Kind

def all : List Kind := [
  .passthrough, .conditionalSkip, .invert, .asyncDelay, .withinTimeout, .duringDuration,
  .expectException]

def name : Kind → String
  | .passthrough => "PASSTHROUGH"
  | .conditionalSkip => "CONDITIONAL_SKIP"
  | .invert => "INVERT"
  | .asyncDelay => "ASYNC_DELAY"
  | .withinTimeout => "WITHIN_TIMEOUT"
  | .duringDuration => "DURING_DURATION"
  | .expectException => "EXPECT_EXCEPTION"

def ofName? (name : String) : Option Kind := all.find? (·.name == name)

end Kind

inductive Rule
  | passthrough
  | conditionalSkip (condition : String)
  | invert
  | delay (millis : Nat)
  /-- The rest is tried again until it succeeds or the time is up. -/
  | within (millis : Nat)
  /-- The rest has to succeed again and again until the time is up. -/
  | during (millis : Nat)
  | expect (type : ErrorType)
  /-- A rule of a kind that is not known, under the text that names the kind. -/
  | unknown (kind : String)
  deriving DecidableEq, Repr

namespace Rule

def timed : Timing → Nat → Rule
  | .after => delay
  | .within => within
  | .during => during

def kindName : Rule → String
  | .passthrough => Kind.passthrough.name
  | .conditionalSkip _ => Kind.conditionalSkip.name
  | .invert => Kind.invert.name
  | .delay _ => Kind.asyncDelay.name
  | .within _ => Kind.withinTimeout.name
  | .during _ => Kind.duringDuration.name
  | .expect _ => Kind.expectException.name
  | .unknown kind => kind

/-! ## The phrase of a rule -/

/-- The article of a type name; a name of no letters takes the one of the vowels. -/
def articleOf : List Char → Article
  | [] => .an
  | c :: _ => if "aeiouAEIOU".toList.contains c then .an else .a

def phrase? : Rule → Option Phrase
  | .conditionalSkip condition => some (.condition condition.toList)
  | .invert => some .inversion
  | .delay millis => some (.timed .after (Number.digitChars millis))
  | .within millis => some (.timed .within (Number.digitChars millis))
  | .during millis => some (.timed .during (Number.digitChars millis))
  | .expect type => some (.expectation (articleOf type.name.toList) type.name.toList)
  | .passthrough | .unknown _ => none

def describe (rule : Rule) : String :=
  match rule.phrase? with
  | some phrase => String.ofList phrase.words
  | none => ""

example : describe (.expect .osError) = "an OSError is thrown when" ∧ describe .passthrough = "" := by
  decide +kernel

end Rule

/-- Parameters that a guard carries although its rule has no use for them. -/
structure Spare where
  condition : Option String := none
  millis : Option Nat := none
  expected : Option ErrorType := none
  deriving DecidableEq, Repr

structure Guard where
  rule : Rule
  spare : Spare := {}
  deriving DecidableEq, Repr

namespace Guard

/-- The condition that the guard carries, whether or not its rule has a use for it. -/
def condition? (guard : Guard) : Option String :=
  match guard.rule with
  | .conditionalSkip condition => some condition
  | _ => guard.spare.condition

def millis? (guard : Guard) : Option Nat :=
  match guard.rule with
  | .delay millis | .within millis | .during millis => some millis
  | _ => guard.spare.millis

def expected? (guard : Guard) : Option ErrorType :=
  match guard.rule with
  | .expect type => some type
  | _ => guard.spare.expected

def always : Guard := ⟨.passthrough, {}⟩

end Guard

abbrev Chain := List Guard

/-- The longest wait of a guard, in milliseconds. -/
def maxMillis : Nat := 9223372036000

end GuardedSteps
