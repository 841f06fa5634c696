import GuardedSteps.ErrorType.Catalog
import GuardedSteps.Validation.Field

/-!
Guards from their fields. Every field is checked on its own, and all complaints are reported in the
order of the fields; only then is it checked that the guard has what its kind needs.
-/

namespace GuardedSteps

namespace Guard

open Validation

structure Fields where
  kind : Option Value := none
  condition : Option Value := none
  millis : Option Value := none
  expected : Candidate := .nothing

/-! ## One guard -/

def checkExpected : Candidate → Except Complaint (Option ErrorType)
  | .errorType type => .ok (some type)
  | .nothing => .ok none
  | .valueType _ | .other => .error .noErrorType

def ofKind (kind : Kind) (spare : Spare) : Except Complaint Guard :=
  match kind with
  | .passthrough => .ok ⟨.passthrough, spare⟩
  | .invert => .ok ⟨.invert, spare⟩
  | .conditionalSkip =>
    match spare.condition with
    | some condition => .ok ⟨.conditionalSkip condition, { spare with condition := none }⟩
    | none => .error (.lacks kind "a condition")
  | .asyncDelay => timed .after
  | .withinTimeout => timed .within
  | .duringDuration => timed .during
  | .expectException =>
    match spare.expected with
    | some type => .ok ⟨.expect type, { spare with expected := none }⟩
    | none => .error (.lacks kind "an exception_type")
where
  timed (timing : Timing) : Except Complaint Guard :=
    match spare.millis with
    | some millis => .ok ⟨.timed timing millis, { spare with millis := none }⟩
    | none => .error (.lacks kind "millis")

def validate (fields : Fields) (next : Except (List Detail) Chain) : Except (List Detail) Chain := do
  let kind := checked "kind" ((fields.kind.map asKind).getD (.ok .passthrough))
  let condition := checked "condition" (orNull asText (fields.condition.getD .null))
  let millis := checked "millis" (orNull asMillis (fields.millis.getD .null))
  let expected := checked "exception_type" (checkExpected fields.expected)
  let (kind, condition, millis, expected, rest) ←
    both kind (both condition (both millis (both expected next)))
  match ofKind kind ⟨condition, millis, expected⟩ with
  | .ok guard => return guard :: rest
  | .error complaint => .error [⟨complaint, []⟩]

/-! ## Plain values as guards -/

def candidateOf : Value → Candidate
  | .null => .nothing
  | _ => .other

def fieldsOf (entries : List (Value × Value)) : Fields :=
  let field (name : String) := (Value.entryAt? entries (.text name)).map (·.2)
  ⟨field "kind", field "condition", field "millis",
    ((field "exception_type").map candidateOf).getD .nothing⟩

mutual
/-- The chain that a plain value stands for: nothing, or a mapping of fields. -/
def ofValue : Value → Except (List Detail) Chain
  | .null => .ok []
  | .mapping entries => validate (fieldsOf entries) (nextAmong entries)
  | _ => .error [⟨.noGuard, []⟩]

def nextAmong : List (Value × Value) → Except (List Detail) Chain
  | [] => .ok []
  | (key, value) :: rest =>
    if Value.sameKey key (.text "next") then (ofValue value).mapError (·.map (Detail.inside "next"))
    else nextAmong rest
end

end Guard

end GuardedSteps
