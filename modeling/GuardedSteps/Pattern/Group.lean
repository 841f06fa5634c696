import GuardedSteps.Pattern.Token
import GuardedSteps.Text.Name

/-!
The groups of a pattern. Groups are numbered in the order in which they are opened, and some have a
name beside their number. A group has a width from the moment it is closed.
-/

namespace GuardedSteps

namespace Pattern

open Text

def Reader.groupCount (reader : Reader) : Nat := reader.groups.length + 1

def Reader.groupWidth? (reader : Reader) (number : Nat) : Option Width :=
  if number = 0 then none else (reader.groups[number - 1]?).bind id

/-- A look-behind may refer only to groups closed before it. -/
def checkLookBehind (number : Nat) : Reading Unit := do
  let reader ← get
  match reader.lookBehindFrom with
  | none => return
  | some first =>
    if (reader.groupWidth? number).isNone then complain .openGroup 0
    if first ≤ number then complain .groupOfSameLookBehind 0

/-! ## Names of groups -/

def checkName (called : List Char) : Reading Unit :=
  if isName called then return
  else complain (.badGroupName (String.ofList called)) (called.length + 1)

def namedGroup (called : List Char) : Reading Nat := do
  match (← get).names.lookup (String.ofList called) with
  | some number => return number
  | none => complain (.unknownGroupName (String.ofList called)) (called.length + 1)

def groupLimit : Nat := 1073741823

/-- The group that a condition refers to, by name or by number. A number may be that of a later
group. -/
def conditionGroup (called : List Char) : Reading Nat := do
  if isName called then namedGroup called
  else
    let (negative, unsigned) := Number.splitSign (trimSpaces called)
    match Number.digitRow unsigned with
    | (digits@(_ :: _), []) =>
      let number := digitsValue digits
      if Number.maxDigits < digits.length || (negative && number != 0) then
        complain (.badGroupName (String.ofList called)) (called.length + 1)
      if number = 0 then complain .zeroGroup (called.length + 1)
      if groupLimit ≤ number then complain (.noSuchGroup number) (called.length + 1)
      modify fun reader =>
        if (reader.conditions.lookup number).isSome then reader
        else
          let place := reader.place - called.length - 1
          { reader with conditions := reader.conditions ++ [(number, place)] }
      return number
    | _ => complain (.badGroupName (String.ofList called)) (called.length + 1)

def openGroup (called : Option (List Char)) : Reading Nat := do
  let reader ← get
  let number := reader.groupCount
  set { reader with groups := reader.groups ++ [none] }
  match called with
  | none => return number
  | some called =>
    match reader.names.lookup (String.ofList called) with
    | some earlier =>
      complain (.groupNameTwice (String.ofList called) number earlier) (called.length + 1)
    | none =>
      modify fun reader => { reader with names := reader.names ++ [(String.ofList called, number)] }
      return number

def widthOf (node : Node) : Reading Width := do
  let reader ← get
  return node.width fun number => (reader.groupWidth? number).getD .zero

def closeGroup (number : Nat) (body : Node) : Reading Unit := do
  let width ← widthOf body
  modify fun reader => { reader with groups := reader.groups.set (number - 1) (some width) }

end Pattern

end GuardedSteps
