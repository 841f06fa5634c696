import GuardedSteps.Comparison.AnyOrder
import GuardedSteps.Failure

/-!
Conditions. A condition is a row of clauses joined by `&&`; each compares what its first word leads
to with what the rest of it stands for. A clause of another shape says nothing.
-/

namespace GuardedSteps

namespace Condition

open Text

def conjuncts : List Char → List (List Char)
  | [] => [[]]
  | '&' :: '&' :: rest => [] :: conjuncts rest
  | c :: rest =>
    match conjuncts rest with
    | first :: more => (c :: first) :: more
    | [] => [[c]]

example : conjuncts ['a', '&', '&', '&', 'b'] = [['a'], ['&', 'b']] := by decide

/-- The subject of a clause, which is one word, and the template behind the space after it. -/
def clause? (cs : List Char) : Option (String × String) :=
  match wordSpan cs with
  | (subject@(_ :: _), ' ' :: template@(_ :: _)) => some (String.ofList subject, String.ofList template)
  | _ => none

def holds (bindings : Variables) (subject template : String) : Except Failure Unit := do
  let actual ← (bindings.getOrSelf subject).mapError fun fault => .template (.index fault)
  let flag ← (Template.resolveFlag bindings template).mapError .template
  (Comparison.meets actual (.text ("?" ++ flag))).mapError .comparison

inductive Verdict
  | met
  | unmet (clause : String)
  | failed (failure : Failure)

/-- Checks clauses from the first to the last; the first one that is not met or cannot be compared
decides. -/
def checkClauses (bindings : Variables) : List (List Char) → Verdict
  | [] => .met
  | cs :: rest =>
    match clause? (trim cs) with
    | none => checkClauses bindings rest
    | some (subject, template) =>
      match holds bindings subject template with
      | .ok () => checkClauses bindings rest
      | .error failure =>
        if failure.isAssertion then .unmet (String.ofList (trim cs)) else .failed failure

def check (bindings : Variables) (condition : String) : Verdict :=
  checkClauses bindings (conjuncts condition.toList)

end Condition

end GuardedSteps
