import GuardedSteps.Failure
import GuardedSteps.Guard.Fields

/-!
Descriptions of chains. A description names the types of expected errors, which are resolved when the
chain is built; each described guard is built after the ones behind it.
-/

namespace GuardedSteps

inductive ExpectedSpec
  | named (name : String)
  | plain (value : Value)

inductive GuardSpec
  | done
  | plain (value : Value)
  | guard (fields : Guard.Fields) (expected : ExpectedSpec) (next : GuardSpec)
  /-- A guard that is made without any check. If a kind is given, it is not known afterwards. -/
  | unchecked (kind : Option String) (next : GuardSpec)

namespace GuardSpec

def expected (resolve : String → Except Failure ErrorType) : ExpectedSpec → Except Failure Candidate
  | .named name => (resolve name).map .errorType
  | .plain value => .ok (Guard.candidateOf value)

def build (resolve : String → Except Failure ErrorType) : GuardSpec → Except Failure Chain
  | .done => .ok []
  | .plain value => (Guard.ofValue value).mapError .validation
  | .guard fields type next => do
    let candidate ← expected resolve type
    let rest ← match next with
      | .plain value => pure ((Guard.ofValue value).mapError (·.map (.inside "next")))
      | spec => (build resolve spec).map .ok
    (Guard.validate { fields with expected := candidate } rest).mapError .validation
  | .unchecked kind next => do
    let rest ← build resolve next
    let rule := (kind.map Rule.unknown).getD .passthrough
    return ⟨rule, {}⟩ :: rest

end GuardSpec

end GuardedSteps
