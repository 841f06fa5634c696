import GuardedSteps.CommandLine.Arguments
import GuardedSteps.Guard.Parse

/-!
What the command prints. It shows the guards of a text, one below the other, or checks a text and
prints at most one line about it.
-/

namespace GuardedSteps

namespace CommandLine

structure Ended where
  code : Option Nat
  output : String
  deriving DecidableEq, Repr

def helpText : String :=
  "usage: stepguard [-h] [--lint] \x7bexplain\x7d ...\n" ++
  "\n" ++
  "stepguard - guard clauses for behaviour-test steps\n" ++
  "\n" ++
  "positional arguments:\n" ++
  "  \x7bexplain\x7d\n" ++
  "    explain   Show the guard chain of a step text\n" ++
  "\n" ++
  "options:\n" ++
  "  -h, --help  show this help message and exit\n" ++
  "  --lint      Check guard text read from stdin\n"

def explainHelpText : String :=
  "usage: stepguard explain [-h] text\n" ++
  "\n" ++
  "positional arguments:\n" ++
  "  text        Step text, e.g. \"within 100ms if x == 1 => the user exists\"\n" ++
  "\n" ++
  "options:\n" ++
  "  -h, --help  show this help message and exit\n"

def guardLine (depth : Nat) (guard : Guard) : String :=
  let words := guard.rule.describe
  String.ofList (List.replicate (2 * depth) ' ') ++ guard.rule.kindName ++ ": " ++
    (if words.isEmpty then "run step" else words) ++ "\n"

def explanation (chain : Chain) (step : String) : String :=
  String.join (chain.mapIdx guardLine) ++ "step: " ++ step ++ "\n"

/-- The chain of a text, or the message that tells why it has none. Failures that are not about guards
are not told. -/
def chainOf (remarks : Failure.Remarks) (text : String) : Except Failure (Except String Chain) :=
  match Guard.parse (Registry.resolver []) text.toList with
  | .ok chain => .ok (.ok chain)
  | .error failure =>
    if failure.type.isA .guardError then .ok (.error (failure.messageWith remarks)) else .error failure

def explain (remarks : Failure.Remarks) (text : String) : Except Failure Ended := do
  match ← chainOf remarks text with
  | .ok chain =>
    let step := String.ofList (Phrase.extract text.toList).remainder
    return ⟨none, explanation chain step⟩
  | .error message => return ⟨some 1, "[Error] " ++ message ++ "\n"⟩

def lint (remarks : Failure.Remarks) (text : String) : Except Failure Ended := do
  match ← chainOf remarks text with
  | .ok _ => return ⟨some 0, ""⟩
  | .error message => return ⟨some 0, "error: " ++ message ++ "\n"⟩

def runWith (remarks : Failure.Remarks) (arguments : List String) (input : String) :
    Except Failure Ended :=
  match read arguments with
  | .lint => lint remarks input
  | .explain text => explain remarks text
  | .help => .ok ⟨some 0, helpText⟩
  | .explainHelp => .ok ⟨some 0, explainHelpText⟩
  | .nothing => .ok ⟨none, helpText⟩
  | .invalid => .ok ⟨some 2, ""⟩

def run : List String → String → Except Failure Ended := runWith .silent

end CommandLine

end GuardedSteps
