import GuardedSteps.Proofs.Clock
import GuardedSteps.Proofs.Run.Ends
import GuardedSteps.Proofs.Run.Following
import GuardedSteps.Proofs.Guard.Phrases

/-!
How runs settle. Behind validated guards a run of an action that raises ordinary errors only ends in a
result, and a failure in it is neither a signal to leave the program nor the signal of a skipped step.
On a steady clock every such run comes to its end.
-/

namespace GuardedSteps

variable {T A M : Type}

def RaisesOrdinary (perform : Effect (World T A M) Unit) : Prop :=
  ∀ world failure after, perform world = some (.error failure, after) → failure.isOrdinary = true

/-! ## Proper results -/

theorem endsProperly_returned {perform : Effect (World T A M) Unit}
    (ordinary : RaisesOrdinary perform) {world after : World T A M} {ended : Except Failure Unit}
    (ran : perform world = some (ended, after)) :
    Result.EndsProperly (Result.returned ended) := by
  cases ended with
  | ok => trivial
  | error failure =>
      have raised := ordinary world failure after ran
      cases skip : failure.isSkip with
      | true =>
          simp only [Result.returned, skip, if_true]
          trivial
      | false =>
          simp only [Result.returned, skip, Polling.surfaced, raised, if_true, Bool.false_eq_true,
            if_false]
          exact ⟨raised, skip⟩

theorem Result.closed_endsProperly : Closed EndsProperly where
  passed := trivial
  skipped := trivial
  unexpectedPass := Failure.proper_unexpectedPass
  nothingThrown := Failure.proper_nothingThrown
  clock := Failure.proper_clock
  untold := Failure.proper_untold
  condition _ _ _ := Condition.proper_of_check
  surfaced ended failure carries proper := by
    cases carries with
    | failed =>
        have ordinary := proper.1
        simp only [Polling.surfaced, ordinary, if_true]
        exact proper
    | raised => exact proper.elim
  notFulfilled _ failure millis _ _ _ := Failure.proper_notFulfilled millis failure
  brokenWindow _ failure elapsed millis _ _ _ := Failure.proper_brokenWindow elapsed millis failure
  otherThrown _ failure expected _ _ _ := Failure.proper_otherThrown expected failure

variable [ClockTime T]

theorem evaluate_endsProperly (bound : Nat) {perform : Effect (World T A M) Unit} (action : A)
    (ordinary : RaisesOrdinary perform) {rules : List Rule}
    (known : ∀ rule ∈ rules, ∀ kind, rule ≠ .unknown kind) (world : World T A M)
    (ended : Except Failure Result) (after : World T A M)
    (ran : evaluate bound perform action rules world = some (ended, after)) :
    Result.EndsProperly ended :=
  Result.closed_endsProperly.evaluate bound action
    (fun _ _ _ called => endsProperly_returned ordinary called)
    (fun kind member => absurd rfl (known _ member kind)) world ended after ran

end GuardedSteps
