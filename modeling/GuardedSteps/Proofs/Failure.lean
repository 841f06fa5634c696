import GuardedSteps.Run.Condition
import GuardedSteps.Run.Result

/-!
Proper failures. A failure that a result may carry is an ordinary error, so that it is no signal to
leave the program, and it is not the signal of a skipped step. The failures that guards, polls, clocks
and conditions make are all of this kind.
-/

namespace GuardedSteps

namespace Failure

/-- An ordinary error that is not the signal of a skipped step. -/
def Proper (failure : Failure) : Prop := failure.isOrdinary = true ∧ failure.isSkip = false

instance (failure : Failure) : Decidable failure.Proper := inferInstanceAs (Decidable (_ ∧ _))

/-! ## Failures of guards and polls -/

theorem proper_unexpectedPass : Proper .unexpectedPass := by decide

theorem proper_notFulfilled (millis : Int) (last : Failure) : Proper (.notFulfilled millis last) := by
  have type : Proper (.raised .guardTimeoutError none) := by decide
  exact type

theorem proper_brokenWindow (elapsed millis : Int) (cause : Failure) :
    Proper (.brokenWindow elapsed millis cause) := proper_unexpectedPass

theorem proper_nothingThrown (expected : String) : Proper (.nothingThrown expected) :=
  proper_unexpectedPass

theorem proper_otherThrown (expected : String) (cause : Failure) :
    Proper (.otherThrown expected cause) := proper_unexpectedPass

theorem proper_untold : Proper .untold := by decide

theorem Proper.reportedAs {report : Failure} (proper : report.Proper) (failure : Failure) :
    (failure.reportedAs report).Proper := by
  unfold Failure.reportedAs
  split
  · exact proper
  · exact proper_untold

theorem proper_clock (fault : ClockFault) : Proper (.clock fault) := by
  cases fault <;> decide

/-! ## Failures of conditions -/

theorem proper_template (fault : Template.Fault) : Proper (.template fault) := by
  have type : Proper (.raised .valueError none) := by decide
  cases fault with
  | index => exact type
  | value fault => cases fault <;> decide

theorem proper_comparison (fault : Comparison.Fault) : Proper (.comparison fault) := by
  have type : Proper (.raised .valueError none) := by decide
  cases fault with
  | mismatch => exact proper_unexpectedPass
  | value fault => cases fault <;> decide
  | pattern obstacle =>
      cases obstacle with
      | countTooLong => exact type
      | countTooLarge | characterTooLarge | clashingAlphabets | lookBehindTooFar | crossedGroup => decide

inductive Unchecked : Failure → Prop
  | template (fault : Template.Fault) : Unchecked (.template fault)
  | comparison (fault : Comparison.Fault) : Unchecked (.comparison fault)

theorem Unchecked.proper {failure : Failure} (unchecked : Unchecked failure) : failure.Proper := by
  cases unchecked with
  | template fault => exact proper_template fault
  | comparison fault => exact proper_comparison fault

end Failure

namespace Condition

open Failure

theorem unchecked_of_holds {bindings : Variables} {subject template : String} {failure : Failure}
    (found : holds bindings subject template = .error failure) : failure.Unchecked := by
  unfold holds at found
  cases led : bindings.getOrSelf subject with
  | error fault =>
      rw [led] at found
      cases found
      exact .template _
  | ok actual =>
      rw [led] at found
      cases resolved : Template.resolveFlag bindings template with
      | error fault =>
          rw [resolved] at found
          cases found
          exact .template _
      | ok flag =>
          rw [resolved] at found
          change (Comparison.meets actual (.text ("?" ++ flag))).mapError Failure.comparison =
            .error failure at found
          cases met : Comparison.meets actual (.text ("?" ++ flag)) with
          | error fault =>
              rw [met] at found
              cases found
              exact .comparison _
          | ok =>
              rw [met] at found
              cases found

theorem unchecked_of_checkClauses {bindings : Variables} {clauses : List (List Char)} {failure : Failure}
    (found : checkClauses bindings clauses = .failed failure) : failure.Unchecked := by
  induction clauses with
  | nil => cases found
  | cons cs rest induction =>
      unfold checkClauses at found
      split at found
      · exact induction found
      · split at found
        · exact induction found
        · rename_i error holds
          split at found
          · cases found
          · cases found
            exact unchecked_of_holds holds

theorem proper_of_check {bindings : Variables} {condition : String} {failure : Failure}
    (found : check bindings condition = .failed failure) : failure.Proper :=
  (unchecked_of_checkClauses found).proper

end Condition

namespace Result

/-- A result that carries no failure but a proper one. -/
def Proper : Result → Prop
  | .failed failure => failure.Proper
  | .passed | .skipped => True

def EndsProperly : Except Failure Result → Prop
  | .ok result => result.Proper
  | .error _ => False

end Result

end GuardedSteps
