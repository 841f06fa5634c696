import GuardedSteps.Clock
import GuardedSteps.Comparison.Mismatch
import GuardedSteps.ErrorType.Resolve
import GuardedSteps.Template
import GuardedSteps.Validation.Complaint

/-!
Failures: everything that can go wrong with a step, by its cause. A failure has a type, which decides
how guards treat it, and a message; some failures come out of another one.
-/

namespace GuardedSteps

/-! ## Raising by name -/

/-- Why an error of some type cannot be made from the arguments that are given. -/
inductive ArgumentFault
  | count (maker : String) (wanted given : Nat)
  | missing (maker : String) (names : List String)
  deriving DecidableEq, Repr

namespace ArgumentFault

def listed (names : List String) : String :=
  match names.map (fun name => "'" ++ name ++ "'") with
  | [] => ""
  | [only] => only
  | [first, second] => first ++ " and " ++ second
  | all => ", ".intercalate all.dropLast ++ ", and " ++ all.getLast?.getD ""

def message : ArgumentFault → String
  | .count maker wanted given =>
    maker ++ " takes exactly " ++ Nat.repr wanted ++ " arguments (" ++ Nat.repr given ++ " given)"
  | .missing maker names =>
    maker ++ " missing " ++ Nat.repr names.length ++ " required positional argument" ++
      (if names.length = 1 then "" else "s") ++ ": " ++ listed names

/-- The standard types that need other arguments than at most one text. -/
def of (type : ErrorType) (given : Nat) : Option ArgumentFault :=
  if type.isStandard "UnicodeDecodeError" || type.isStandard "UnicodeEncodeError" then
    some (.count "function" 5 given)
  else if type.isStandard "UnicodeTranslateError" then some (.count "function" 4 given)
  else if type.isStandard "BaseExceptionGroup" then
    some (.count "BaseExceptionGroup.__new__()" 2 given)
  else if type.isStandard "JSONDecodeError" then
    some (.missing "JSONDecodeError.__init__()" (["msg", "doc", "pos"].drop given))
  else if type.isStandard "GuardTimeoutError" && given == 0 then
    some (.missing "GuardTimeoutError.__init__()" ["message"])
  else none

end ArgumentFault

/-! ## All failures -/

inductive Failure
  | raised (type : ErrorType) (argument : Option Value)
  | arguments (fault : ArgumentFault)
  | comparison (fault : Comparison.Fault)
  | pattern (operand : String) (fault : Pattern.Fault)
  | template (fault : Template.Fault)
  | resolution (fault : Resolution.Fault)
  | missingModule (missing : Resolution.MissingModule)
  | millis (fault : Number.IntegerFault)
  | invalidTiming (phrase : String)
  | invalidGuard (phrase : String) (details : List Validation.Detail)
  | validation (details : List Validation.Detail)
  | missingPart (phrase part : String)
  | clock (fault : ClockFault)
  | unexpectedPass
  | notFulfilled (millis : Int) (last : Failure)
  | brokenWindow (elapsed millis : Int) (cause : Failure)
  | nothingThrown (expected : String)
  | otherThrown (expected : String) (cause : Failure)
  | skipped
  | unknownKind (kind : String)
  /-- The message of a failure has a number with too many digits and cannot be repeated. -/
  | untold

namespace Failure

def raising (type : ErrorType) (argument : Option Value) : Failure :=
  match ArgumentFault.of type (if argument.isSome then 1 else 0) with
  | some fault => .arguments fault
  | none => .raised type argument

/-! ## Types -/

def valueFaultType : Value.Fault → ErrorType
  | .tooManyDigits => .valueError
  | .beyondDoubles => .overflowError

def obstacleType : Pattern.Obstacle → ErrorType
  | .countTooLarge | .characterTooLarge => .overflowError
  | .countTooLong _ | .clashingAlphabets => .valueError
  | .lookBehindTooFar => .runtimeError
  | .crossedGroup => .systemError

def comparisonFaultType : Comparison.Fault → ErrorType
  | .mismatch _ => .guardAssertionError
  | .value fault => valueFaultType fault
  | .pattern obstacle => obstacleType obstacle

def templateFaultType : Template.Fault → ErrorType
  | .index _ => .valueError
  | .value fault => valueFaultType fault

def resolutionFaultType : Resolution.Fault → ErrorType
  | .emptyModule => .valueError
  | .relativeModule _ => .typeError
  | .unknownName _ | .notErrorType _ | .missingModule _ _ _ => .typeResolutionError

def clockFaultType : ClockFault → ErrorType
  | .tooLarge | .infinite | .tooLong => .overflowError
  | .notANumber => .valueError

def type : Failure → ErrorType
  | .raised type _ => type
  | .arguments _ => .typeError
  | .comparison fault => comparisonFaultType fault
  | .pattern _ _ => .patternError
  | .template fault => templateFaultType fault
  | .resolution fault => resolutionFaultType fault
  | .missingModule _ => .moduleNotFoundError
  | .millis _ => .valueError
  | .invalidTiming _ | .invalidGuard _ _ | .missingPart _ _ => .parseError
  | .validation _ => .validationError
  | .clock fault => clockFaultType fault
  | .unexpectedPass | .brokenWindow _ _ _ | .nothingThrown _ | .otherThrown _ _ =>
    .guardAssertionError
  | .notFulfilled _ _ => .guardTimeoutError
  | .skipped => .skipStep
  | .unknownKind _ => .valueError
  | .untold => valueFaultType .tooManyDigits

/-- Whether a failure is an ordinary one; the others are signals to leave the program. -/
def isOrdinary (failure : Failure) : Bool := failure.type.isA .exception

/-- Whether a failure is an assertion that may hold at a later attempt. -/
def isAssertion (failure : Failure) : Bool := failure.type.isA .assertionError

def isSkip (failure : Failure) : Bool := failure.type.isA .skipStep

/-! ## Messages -/

def raisedMessage (type : ErrorType) (argument : Option Value) : String :=
  match argument with
  | some value => if type.isStandard "KeyError" then value.written else value.shown
  | none => if type.isStandard "SyntaxError" then "None" else ""

def valueFaultMessage : Value.Fault → String
  | .tooManyDigits =>
    "Exceeds the limit (" ++ Nat.repr Number.maxDigits ++
      " digits) for integer string conversion; use sys.set_int_max_str_digits() to increase the limit"
  | .beyondDoubles => "int too large to convert to float"

def comparisonFaultMessage : Comparison.Fault → String
  | .mismatch mismatch => mismatch.message
  | .value fault => valueFaultMessage fault
  | .pattern obstacle => obstacle.message

def templateFaultMessage : Template.Fault → String
  | .index fault => fault.message
  | .value fault => valueFaultMessage fault

/-- What the libraries that read phrases and check fields say themselves of a phrase or of some fields, if
that is to be told. -/
structure Remarks where
  phrase : String → Option String
  fields : List Validation.Detail → Option String

def Remarks.silent : Remarks := ⟨fun _ => none, fun _ => none⟩

def remarked (text : String) : Option String → String
  | none => text
  | some remark => text ++ ": " ++ remark

def messageWith (remarks : Remarks) : Failure → String
  | .raised type argument => raisedMessage type argument
  | .arguments fault => fault.message
  | .comparison fault => comparisonFaultMessage fault
  | .pattern operand fault => fault.message operand
  | .template fault => templateFaultMessage fault
  | .resolution fault => fault.message
  | .missingModule missing => missing.message
  | .millis fault => fault.message
  | .invalidTiming phrase => remarked ("Invalid timing guard '" ++ phrase ++ "'") (remarks.phrase phrase)
  | .invalidGuard phrase details =>
    remarked ("Invalid guard '" ++ phrase ++ "'") (remarks.fields details)
  | .validation details =>
    (remarks.fields details).getD
      ("; ".intercalate (details.map fun detail => detail.complaint.message))
  | .missingPart phrase part => "Malformed " ++ phrase ++ " guard (missing " ++ part ++ ")"
  | .clock fault => fault.message
  | .unexpectedPass => "This test was expected to fail."
  | .notFulfilled limit last =>
    "condition was not fulfilled within " ++ Number.integerText limit ++ "ms: " ++ last.messageWith remarks
  | .brokenWindow elapsed limit cause =>
    "condition failed after " ++ Number.integerText elapsed ++ "ms of a " ++
      Number.integerText limit ++ "ms window: " ++ cause.messageWith remarks
  | .nothingThrown expected => "expected exception of type " ++ expected ++ " but none was thrown"
  | .otherThrown expected cause =>
    "expected exception of type " ++ expected ++ " but got " ++ cause.type.name ++ ": " ++
      cause.messageWith remarks
  | .skipped => "step skipped by a guard"
  | .unknownKind kind => "Unknown guard kind: " ++ kind
  | .untold => valueFaultMessage .tooManyDigits

/-- The message without the remarks of libraries. -/
def message (failure : Failure) : String := failure.messageWith .silent

/-- Whether the message of a failure can be told, with all the numbers in it. -/
def isTellable : Failure → Bool
  | .raised _ argument => argument.all Value.isWritable
  | .notFulfilled _ last => last.isTellable
  | .brokenWindow _ _ cause | .otherThrown _ cause => cause.isTellable
  | _ => true

/-- The failure by which another one is reported, whose message is repeated there. -/
def reportedAs (failure report : Failure) : Failure := if failure.isTellable then report else .untold

/-! ## Causes -/

def cause? : Failure → Option Failure
  | .comparison (.mismatch (.pattern operand fault)) => some (.pattern operand fault)
  | .resolution (.missingModule _ _ missing) => some (.missingModule missing)
  | .invalidGuard _ details => some (.validation details)
  | .notFulfilled _ last => some last
  | .brokenWindow _ _ cause => some cause
  | .otherThrown _ cause => some cause
  | _ => none

def lastError? : Failure → Option Failure
  | .notFulfilled _ last => some last
  | _ => none

end Failure

end GuardedSteps
