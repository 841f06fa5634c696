import GuardedSteps.ErrorType.Resolve

/-!
Filling a registry. An entry is a type that is found by name, or a new type under a given one.
-/

namespace GuardedSteps

inductive TypeSpec
  | named (name : String)
  | declared (name base : String)
  deriving DecidableEq, Repr

namespace Registry

def declaredHome : String := "oracle"

/-- What a name stands for when a registry is filled: some types of values and nothing have names of
their own, then come the entries so far. -/
def candidateNamed (registry : Registry) (name : String) : Except Resolution.Fault Candidate :=
  if ["int", "str", "object"].contains name then .ok (.valueType name)
  else if name == "none" then .ok .nothing
  else match registry.lookup name with
    | some candidate => .ok candidate
    | none => (Resolution.resolve [] name).map .errorType

def candidate (registry : Registry) (serial : Nat) :
    TypeSpec → Except Resolution.Fault Candidate
  | .named name => registry.candidateNamed name
  | .declared name base => do
    match ← registry.candidateNamed base with
    | .errorType parent => return .errorType (parent.declare serial name declaredHome)
    | _ => return .valueType name

def build (registry : Registry) (serial : Nat) :
    List (String × TypeSpec) → Except Resolution.Fault Registry
  | [] => .ok registry
  | (name, spec) :: rest => do
    let found ← registry.candidate serial spec
    build (registry.register name found) (serial + 1) rest

end Registry

end GuardedSteps
