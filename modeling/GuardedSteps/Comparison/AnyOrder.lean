import GuardedSteps.Comparison.Flag

/-!
Comparing whole values. Mappings are compared key by key, and collections without regard to order:
each expected element takes the first element of the actual ones that meets it and is not taken yet.
-/

namespace GuardedSteps

namespace Comparison

def flag? (expected : String) : Option String :=
  match expected.toList with
  | '?' :: rest => some (String.ofList rest)
  | _ => none

def meetsPlainly (actual expected : Value) : Except Fault Unit := do
  if ← isEqual actual expected then return
  fail (.plain actual expected)

def meetsText (actual : Value) (expected : String) : Except Fault Unit :=
  match flag? expected with
  | some flag => do
    if ← satisfies actual flag then return
    fail (.flag actual expected)
  | none => meetsPlainly actual (.text expected)

/-- The candidates without the first one that passes the test, if one does. A candidate is passed
over only for a mismatch. -/
def takeMatch (test : Value → Except Fault Unit) : List Value → Except Fault (Option (List Value))
  | [] => .ok none
  | candidate :: rest =>
    match test candidate with
    | .ok () => .ok (some rest)
    | .error (.mismatch _) => (takeMatch test rest).map (Option.map (candidate :: ·))
    | .error fault => .error fault

def haveSameKeys (actual expected : List (Value × Value)) : Bool :=
  (actual.all fun entry => (Value.entryAt? expected entry.1).isSome) &&
    expected.all fun entry => (Value.entryAt? actual entry.1).isSome

mutual
def meets (actual : Value) : (expected : Value) → Except Fault Unit
  | .text expected => meetsText actual expected
  | .mapping expected =>
    match actual.entries? with
    | none => fail (.noMapping actual)
    | some entries =>
      if haveSameKeys entries expected then meetsEntries entries expected
      else fail (.keys (entries.map (·.1)) (expected.map (·.1)))
  | .collection shape expected =>
    match actual.items? with
    | none => fail (.elements actual (.collection shape expected))
    | some items =>
      if items.length = expected.length then meetsItems actual items expected
      else fail (.elements actual (.collection shape expected))
  | expected => meetsPlainly actual expected

def meetsEntries (actual : List (Value × Value)) : (expected : List (Value × Value)) → Except Fault Unit
  | [] => .ok ()
  | (key, value) :: rest => do
    match Value.entryAt? actual key with
    | none => .ok ()
    | some entry => meets entry.2 value
    meetsEntries actual rest

/-- Lets each expected element take one of the remaining ones. -/
def meetsItems (actual : Value) (remaining : List Value) : (expected : List Value) → Except Fault Unit
  | [] => .ok ()
  | item :: rest => do
    match ← takeMatch (meets · item) remaining with
    | some left => meetsItems actual left rest
    | none => fail (.element actual item)
end

end Comparison

end GuardedSteps
