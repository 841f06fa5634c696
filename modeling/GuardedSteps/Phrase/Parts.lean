import GuardedSteps.Failure

/-!
The parts of a phrase that has been taken apart: words of some type, and groups of further parts.
-/

namespace GuardedSteps

inductive PhrasePart
  | word (type text : String)
  | group (name : String)
  deriving DecidableEq, Repr

namespace PhrasePart

def text? (type : String) : PhrasePart → Option String
  | .word own text => if own == type then some text else none
  | .group _ => none

def find (phrase type : String) (parts : List PhrasePart) : Except Failure String :=
  match parts.findSome? (text? type) with
  | some text => .ok text
  | none => .error (.missingPart phrase type)

end PhrasePart

end GuardedSteps
