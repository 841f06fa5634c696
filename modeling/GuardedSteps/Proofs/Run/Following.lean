import GuardedSteps.Proofs.Run.Attempts

/-!
What may follow an attempt. A poll never goes on after a skip, it pauses before it goes on at all, and
it makes no improper failure of its own. All that is shown of whole runs rests on these three facts
about one attempt.
-/

namespace GuardedSteps

namespace Polling

variable {T A M : Type} [ClockTime T]

/-- There is time left before the deadline, and as much of it passes as a pause takes. -/
def Paused (interval : Int) (deadline : T) (before after : World T A M) : Prop :=
  ClockTime.isOver (ClockTime.since deadline before.now) = false ∧
    ∃ span, ClockTime.ofMillis interval = .ok span ∧
      after = before.sleep (ClockTime.lesser span (ClockTime.since deadline before.now))

/-- What may follow an attempt that ended in some world: a last end that is a proper one if the
attempt ended properly, or another attempt after a pause. -/
def Next.Follows (interval : Int) (deadline : T) (ended : Except Failure Result) (world : World T A M) :
    Next (World T A M) Result → Prop
  | .ended value after => after = world ∧ (Result.EndsProperly ended → Result.EndsProperly value)
  | .again after => Paused interval deadline world after

/-- A way of going on that ends with a skip, as a skip. -/
structure Lawful (interval : Int) (deadline : T) (next : Choice T A M) : Prop where
  skipped : ∀ after, next (.ok .skipped) after = .ended (.ok .skipped) after
  follows : ∀ ended after, (next ended after).Follows interval deadline ended after

/-! ## The two polls that repeat attempts -/

theorem follows_beforeDeadline {interval : Int} {deadline : T} {final : Result} {ended : Except Failure Result}
    (proper : Result.EndsProperly ended → final.Proper) (world : World T A M) :
    (beforeDeadline interval deadline final world).Follows interval deadline ended world := by
  cases reached : ClockTime.isOver (ClockTime.since deadline world.now) with
  | true =>
      rw [show beforeDeadline interval deadline final world = .ended (.ok final) world by
        simp [beforeDeadline, reached]]
      exact ⟨rfl, proper⟩
  | false =>
      cases measured : ClockTime.ofMillis (T := T) interval with
      | ok span =>
          rw [show beforeDeadline interval deadline final world = .again (world.sleep
            (ClockTime.lesser span (ClockTime.since deadline world.now))) by
              simp [beforeDeadline, reached, measured]]
          exact ⟨reached, span, measured, rfl⟩
      | error fault =>
          rw [show beforeDeadline interval deadline final world =
            .ended (.ok (.failed (.clock fault))) world by simp [beforeDeadline, reached, measured]]
          exact ⟨rfl, fun _ => Failure.proper_clock fault⟩

theorem lawful_untilNext (millis interval : Int) (deadline : T) :
    Lawful (A := A) (M := M) interval deadline (untilNext millis interval deadline) where
  skipped _ := rfl
  follows ended after := by
    have failed (failure : Failure)
        (same : untilNext millis interval deadline ended after = if failure.isAssertion then
          beforeDeadline interval deadline
            (.failed (failure.reportedAs (.notFulfilled millis failure))) after
          else .ended (surfaced failure) after)
        (proper : Result.EndsProperly ended → failure.Proper) :
        (untilNext millis interval deadline ended after).Follows interval deadline ended after := by
      rw [same]
      split
      · have final : (Result.failed (failure.reportedAs (.notFulfilled millis failure))).Proper :=
          (Failure.proper_notFulfilled millis failure).reportedAs failure
        exact follows_beforeDeadline (fun _ => final) after
      · refine ⟨rfl, fun ends => ?_⟩
        have ordinary := (proper ends).1
        simp only [surfaced, ordinary, if_true]
        exact proper ends
    cases ended with
    | error failure => exact failed failure rfl False.elim
    | ok result =>
        cases result with
        | passed => exact ⟨rfl, id⟩
        | failed failure => exact failed failure rfl id
        | skipped => exact ⟨rfl, id⟩

theorem lawful_duringNext (millis interval : Int) (opened deadline : T) :
    Lawful (A := A) (M := M) interval deadline (duringNext millis interval opened deadline) where
  skipped _ := rfl
  follows ended after := by
    have failed (failure : Failure)
        (same : duringNext millis interval opened deadline ended after = if failure.isOrdinary then
          .ended (.ok (.failed (breach millis opened after.now failure))) after
          else .ended (.error failure) after)
        (proper : Result.EndsProperly ended → failure.Proper) :
        (duringNext millis interval opened deadline ended after).Follows interval deadline ended after := by
      rw [same]
      split
      · exact ⟨rfl, fun _ => proper_breach millis opened after.now failure⟩
      · rename_i signal
        exact ⟨rfl, fun ends => signal (proper ends).1⟩
    cases ended with
    | error failure => exact failed failure rfl False.elim
    | ok result =>
        cases result with
        | passed => exact follows_beforeDeadline id after
        | failed failure => exact failed failure rfl id
        | skipped => exact ⟨rfl, id⟩

end Polling

end GuardedSteps
