import GuardedSteps.ErrorType.Catalog
import GuardedSteps.Text.Quoted

/-!
Finding the error type that a name stands for. Registered names come first, then the names that need
no module, then dotted names, of which the last part is looked up in the module that the others
name.
-/

namespace GuardedSteps

abbrev Registry := List (String × Candidate)

namespace Registry

def register (registry : Registry) (name : String) (candidate : Candidate) : Registry :=
  if (registry.lookup name).isSome then
    registry.map fun entry => if entry.1 == name then (name, candidate) else entry
  else registry ++ [(name, candidate)]

end Registry

namespace Resolution

/-! ## Faults -/

/-- A module that is not there. When a module with that much of the name exists but has no modules
below it, it is named too. -/
structure MissingModule where
  name : String
  parent : Option String
  deriving DecidableEq, Repr

def MissingModule.message (missing : MissingModule) : String :=
  "No module named " ++ Text.quoted missing.name ++
    match missing.parent with
    | some parent => "; " ++ Text.quoted parent ++ " is not a package"
    | none => ""

/-- Why a name stands for no error type. -/
inductive Fault
  | unknownName (name : String)
  | notErrorType (name : String)
  | missingModule (home name : String) (missing : MissingModule)
  | emptyModule
  /-- The name of the module starts with a dot. -/
  | relativeModule (home : String)
  deriving DecidableEq, Repr

def Fault.message : Fault → String
  | .unknownName name => "Unknown exception type '" ++ name ++ "'"
  | .notErrorType name => "'" ++ name ++ "' is not an exception type"
  | .missingModule home name _ => "Cannot import module '" ++ home ++ "' for type '" ++ name ++ "'"
  | .emptyModule => "Empty module name"
  | .relativeModule home =>
    "the 'package' argument is required to perform a relative import for " ++ Text.quoted home

/-! ## Dotted names -/

def splitLast (cs : List Char) : Option (List Char × List Char) :=
  match cs.reverse.dropWhile (· != '.') with
  | [] => none
  | _ :: before => some (before.reverse, (cs.reverse.takeWhile (· != '.')).reverse)

example : splitLast ['a', '.', 'b', '.', 'c'] = some (['a', '.', 'b'], ['c']) := by decide

def beginnings (before : List Char) : List Char → List String
  | [] => [String.ofList before]
  | '.' :: rest => String.ofList before :: beginnings (before ++ ['.']) rest
  | c :: rest => beginnings (before ++ [c]) rest

section

variable (library : Library)

/-- The first of the modules on the way that is missing. -/
def missing? : (parent : Option ModuleEntry) → List String → Option MissingModule
  | _, [] => none
  | parent, name :: rest =>
    match library.moduleNamed? name with
    | some entry => missing? (some entry) rest
    | none => some ⟨name, (parent.filter (!·.isPackage)).map (·.name)⟩

def findDotted (home last name : String) : Except Fault (Option Candidate) :=
  if home.isEmpty then .error .emptyModule
  else if home.startsWith "." then .error (.relativeModule home)
  else match library.moduleNamed? home with
    | some entry => .ok (entry.find? last)
    | none =>
      match missing? library none (beginnings [] home.toList) with
      | some missing => .error (.missingModule home name missing)
      | none => .ok none

/-! ## All names -/

def find (registry : Registry) (name : String) : Except Fault (Option Candidate) :=
  match registry.lookup name, library.standard.find? name, splitLast name.toList with
  | some candidate, _, _ => .ok (some candidate)
  | none, some candidate, _ => .ok (some candidate)
  | none, none, some (home, last) =>
    findDotted library (String.ofList home) (String.ofList last) name
  | none, none, none => .ok none

/-- The error type that a name stands for in a library. Only types whose errors can be raised count. -/
def resolveIn (registry : Registry) (name : String) : Except Fault ErrorType := do
  match ← find library registry name with
  | some (.errorType type) =>
    if type.isA .baseException then .ok type else .error (.notErrorType name)
  | some (.valueType _) | some .other => .error (.notErrorType name)
  | some .nothing | none => .error (.unknownName name)

end

def resolve (registry : Registry) (name : String) : Except Fault ErrorType :=
  resolveIn Catalog.library registry name

end Resolution

end GuardedSteps
