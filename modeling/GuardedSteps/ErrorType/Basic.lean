/-!
Error types. An error type has a name, the module it lives in and the types above it; an error of
one type counts as an error of every type above. Two types are the same when their identities are,
whatever their names.
-/

namespace GuardedSteps

/-- What makes an error type itself: a standard type is known by its name, a declared one by a
serial number. -/
inductive TypeId
  | standard (name : String)
  | declared (serial : Nat)
  deriving DecidableEq, Repr

structure ErrorType where
  id : TypeId
  name : String
  home : String
  above : List TypeId
  deriving DecidableEq, Repr

namespace ErrorType

def isA (type other : ErrorType) : Bool := type.id == other.id || type.above.contains other.id

/-- Whether this type is the standard type of that name or lies below it. -/
def isStandard (type : ErrorType) (name : String) : Bool :=
  type.id == .standard name || type.above.contains (.standard name)

@[simp] theorem isA_self (type : ErrorType) : type.isA type = true := by simp [isA]

def under (parents : List ErrorType) (home name : String) : ErrorType where
  id := .standard name
  name := name
  home := home
  above := parents.flatMap fun parent => parent.id :: parent.above

def declare (parent : ErrorType) (serial : Nat) (name home : String) : ErrorType where
  id := .declared serial
  name := name
  home := home
  above := parent.id :: parent.above

theorem declare_isA (parent : ErrorType) (serial : Nat) (name home : String) :
    (parent.declare serial name home).isA parent = true := by
  simp [isA, declare]

end ErrorType

end GuardedSteps
