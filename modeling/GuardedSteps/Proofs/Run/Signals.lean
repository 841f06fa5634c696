import GuardedSteps.Proofs.Run.Ends

/-!
Failures and signals. Behind guards of known kinds a failure that a run carries as its result is an
ordinary one, and what it raises instead is a signal to leave the program. No guard retries such a
signal, provided that the assertions an action raises are ordinary errors.
-/

namespace GuardedSteps

namespace Result

/-- A failed result carries an ordinary failure; what is raised is neither ordinary nor an
assertion. -/
def EndsSorted : Except Failure Result → Prop
  | .ok .passed | .ok .skipped => True
  | .ok (.failed failure) => failure.isOrdinary = true
  | .error failure => failure.isOrdinary = false ∧ failure.isAssertion = false

end Result

variable {T A M : Type}

def RaisesOrdinaryAssertions (perform : Effect (World T A M) Unit) : Prop :=
  ∀ world failure after, perform world = some (.error failure, after) →
    failure.isAssertion = true → failure.isOrdinary = true

namespace Polling

theorem endsSorted_surfaced {failure : Failure}
    (sorted : failure.isAssertion = true → failure.isOrdinary = true) :
    Result.EndsSorted (surfaced failure) := by
  unfold surfaced
  split
  · next ordinary => exact ordinary
  · next signal =>
    have signal : failure.isOrdinary = false := by simpa using signal
    refine ⟨signal, ?_⟩
    cases assertion : failure.isAssertion with
    | false => rfl
    | true => simp [sorted assertion] at signal

end Polling

theorem Result.closed_endsSorted : Closed EndsSorted where
  passed := trivial
  skipped := trivial
  unexpectedPass := Failure.proper_unexpectedPass.1
  nothingThrown expected := (Failure.proper_nothingThrown expected).1
  clock fault := (Failure.proper_clock fault).1
  untold := Failure.proper_untold.1
  condition _ _ _ verdict := (Condition.proper_of_check verdict).1
  surfaced ended failure carries sorted := by
    cases carries with
    | failed => exact Polling.endsSorted_surfaced fun _ => sorted
    | raised => exact Polling.endsSorted_surfaced fun assertion => by simp [sorted.2] at assertion
  notFulfilled _ failure millis _ _ _ := (Failure.proper_notFulfilled millis failure).1
  brokenWindow _ failure elapsed millis _ _ _ := (Failure.proper_brokenWindow elapsed millis failure).1
  otherThrown _ failure expected _ _ _ := (Failure.proper_otherThrown expected failure).1

theorem endsSorted_returned {perform : Effect (World T A M) Unit}
    (raises : RaisesOrdinaryAssertions perform) {world after : World T A M}
    {ended : Except Failure Unit} (ran : perform world = some (ended, after)) :
    Result.EndsSorted (Result.returned ended) := by
  cases ended with
  | ok => trivial
  | error failure =>
      simp only [Result.returned]
      split
      · trivial
      · exact Polling.endsSorted_surfaced (raises world failure after ran)

/-- Behind guards of known kinds, a run ends sorted. -/
theorem evaluate_endsSorted [ClockTime T] (bound : Nat) {perform : Effect (World T A M) Unit}
    (raises : RaisesOrdinaryAssertions perform) (action : A) {rules : List Rule}
    (known : ∀ rule ∈ rules, ∀ kind, rule ≠ .unknown kind) (world : World T A M)
    (ended : Except Failure Result) (after : World T A M)
    (ran : evaluate bound perform action rules world = some (ended, after)) :
    Result.EndsSorted ended :=
  Result.closed_endsSorted.evaluate bound action (fun _ _ _ called => endsSorted_returned raises called)
    (fun kind member => absurd rfl (known _ member kind)) world ended after ran

end GuardedSteps
