import GuardedSteps.Pattern.Fault
import GuardedSteps.Pattern.Width

/-!
The tokens of a pattern, and the state of reading one. A token is a character, or a backslash with
the character after it; one token is looked at ahead. Reading ends at the first fault.
-/

namespace GuardedSteps

namespace Pattern

open Text

inductive Token
  | plain (c : Char)
  | escaped (c : Char)
  deriving DecidableEq, Repr

def Token.chars : Token → List Char
  | .plain c => [c]
  | .escaped c => ['\\', c]

/-- The state of reading. -/
structure Reader where
  next : Option Token
  rest : List Char
  index : Nat
  switches : Switches
  groups : List (Option Width) := []
  names : List (String × Nat) := []
  /-- While a look-behind is read, the number of the first group that is opened inside. -/
  lookBehindFrom : Option Nat := none
  /-- Groups that a condition refers to, with the place of the reference. -/
  conditions : List (Nat × Nat) := []

abbrev Reading := StateT Reader (Except Problem)

def obstruct {α : Type} (obstacle : Obstacle) : Reading α := throw (.obstacle obstacle)

def Reader.place (reader : Reader) : Nat :=
  reader.index - (reader.next.map fun token => token.chars.length).getD 0

def complain (complaint : Complaint) (back : Nat) : Reading α := do
  let reader ← get
  throw (.fault ⟨complaint, some (reader.place - back)⟩)

/-- Look at the next token. A backslash with nothing after it is a fault at once. -/
def advance : Reading Unit := do
  let reader ← get
  match reader.rest with
  | [] => set { reader with next := none }
  | ['\\'] => throw (.fault ⟨.escapeAtEnd, some reader.index⟩)
  | '\\' :: c :: rest =>
    set { reader with next := some (.escaped c), rest := rest, index := reader.index + 2 }
  | c :: rest => set { reader with next := some (.plain c), rest := rest, index := reader.index + 1 }

def take : Reading (Option Token) := do
  let reader ← get
  advance
  return reader.next

def accept (c : Char) : Reading Bool := do
  let reader ← get
  if reader.next == some (.plain c) then
    advance
    return true
  else return false

def takeWhile (admits : Char → Bool) : (count : Nat) → Reading (List Char)
  | 0 => return []
  | count + 1 => do
    match (← get).next with
    | some (.plain c) =>
      if admits c then
        advance
        return c :: (← takeWhile admits count)
      else return []
    | _ => return []

def takeName (terminator : Char) (what : String) : (bound : Nat) → List Char → Reading (List Char)
  | 0, _ => throw .tooDeep
  | bound + 1, taken => do
    match ← take with
    | none =>
      if taken.isEmpty then complain (.missing what) 0
      else complain (.unterminatedName terminator) taken.length
    | some token =>
      if token == .plain terminator then
        if taken.isEmpty then complain (.missing what) 1 else return taken
      else takeName terminator what bound (taken ++ token.chars)

def remaining : Reading Nat := do
  let reader ← get
  return reader.rest.length + 2

def name (terminator : Char) (what : String) : Reading (List Char) := do
  takeName terminator what (← remaining) []

end Pattern

end GuardedSteps
