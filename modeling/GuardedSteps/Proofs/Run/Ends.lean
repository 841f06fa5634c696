import GuardedSteps.Proofs.Run.Attempts

/-!
How runs can end. Each guard makes a new end out of the end of the rest, or passes it on. What is kept
by all that guards make of an end holds of the end of every run, if it holds of the ends of the action.
-/

namespace GuardedSteps

/-- An end that carries a failure: as a result, or as what is raised. -/
inductive Result.Carries : Except Failure Result → Failure → Prop
  | failed (failure : Failure) : Carries (.ok (.failed failure)) failure
  | raised (failure : Failure) : Carries (.error failure) failure

/-- A property of ends that no guard breaks. -/
structure Result.Closed (holds : Except Failure Result → Prop) : Prop where
  passed : holds (.ok .passed)
  skipped : holds (.ok .skipped)
  unexpectedPass : holds (.ok (.failed .unexpectedPass))
  nothingThrown : ∀ expected, holds (.ok (.failed (.nothingThrown expected)))
  clock : ∀ fault, holds (.ok (.failed (.clock fault)))
  untold : holds (.ok (.failed .untold))
  condition : ∀ bindings condition failure, Condition.check bindings condition = .failed failure →
    holds (.ok (.failed failure))
  surfaced : ∀ ended failure, Carries ended failure → holds ended → holds (Polling.surfaced failure)
  notFulfilled : ∀ ended failure millis, Carries ended failure → holds ended →
    failure.isAssertion = true → holds (.ok (.failed (.notFulfilled millis failure)))
  brokenWindow : ∀ ended failure elapsed millis, Carries ended failure → holds ended →
    failure.isOrdinary = true → holds (.ok (.failed (.brokenWindow elapsed millis failure)))
  otherThrown : ∀ ended failure expected, Carries ended failure → holds ended →
    failure.isOrdinary = true → holds (.ok (.failed (.otherThrown expected failure)))

namespace Result.Closed

variable {T A M : Type} {holds : Except Failure Result → Prop} (closed : Closed holds)

include closed

theorem reportedAs {report : Failure} (reported : holds (.ok (.failed report))) (failure : Failure) :
    holds (.ok (.failed (failure.reportedAs report))) := by
  unfold Failure.reportedAs
  split
  · exact reported
  · exact closed.untold

/-! ## Inversions and expected errors -/

theorem inverted {ended : Except Failure Result} (before : holds ended) :
    holds (ended.map Result.inverted) := by
  cases ended with
  | error failure => exact before
  | ok result =>
      cases result with
      | passed => exact closed.unexpectedPass
      | failed failure => exact closed.passed
      | skipped => exact closed.skipped

theorem judged (expected : ErrorType) {ended : Except Failure Result} (before : holds ended) :
    holds (Polling.judged expected ended) := by
  have failed (failure : Failure) (carries : Carries ended failure) :
      holds (if failure.type.isA expected then .ok .passed
        else if failure.isOrdinary then
          .ok (.failed (failure.reportedAs (.otherThrown expected.name failure)))
        else .error failure) := by
    have passedOn := closed.surfaced ended failure carries before
    split
    · exact closed.passed
    · split
      · next ordinary =>
        exact closed.reportedAs (closed.otherThrown ended failure _ carries before ordinary) failure
      · next signal => simpa [Polling.surfaced, signal] using passedOn
  cases ended with
  | error failure => exact failed failure (.raised failure)
  | ok result =>
      cases result with
      | passed => exact closed.nothingThrown expected.name
      | failed failure => exact failed failure (.failed failure)
      | skipped => exact closed.skipped

variable [ClockTime T]

/-! ## Rows of attempts -/

theorem beforeDeadline {interval : Int} {deadline : T} {final : Result} {world last : World T A M}
    {value : Except Failure Result} (before : holds (.ok final))
    (chosen : Polling.beforeDeadline interval deadline final world = .ended value last) : holds value := by
  unfold Polling.beforeDeadline at chosen
  simp only at chosen
  split at chosen
  · cases chosen
    exact before
  · split at chosen
    · cases chosen
    · next fault _ =>
      cases chosen
      exact closed.clock fault

theorem untilNext {millis interval : Int} {deadline : T} {ended value : Except Failure Result}
    {after last : World T A M} (before : holds ended)
    (chosen : Polling.untilNext millis interval deadline ended after = .ended value last) : holds value := by
  have failed (failure : Failure) (carries : Carries ended failure)
      (chosen : (if failure.isAssertion then
          Polling.beforeDeadline interval deadline
            (.failed (failure.reportedAs (.notFulfilled millis failure))) after
        else .ended (Polling.surfaced failure) after) = .ended value last) : holds value := by
    split at chosen
    · next assertion =>
      have reported := closed.notFulfilled ended failure millis carries before assertion
      exact closed.beforeDeadline (closed.reportedAs reported failure) chosen
    · cases chosen
      exact closed.surfaced ended failure carries before
  cases ended with
  | error failure => exact failed failure (.raised failure) chosen
  | ok result =>
      cases result with
      | passed =>
          cases chosen
          exact closed.passed
      | failed failure => exact failed failure (.failed failure) chosen
      | skipped =>
          cases chosen
          exact closed.skipped

theorem breach {ended : Except Failure Result} {failure : Failure} (carries : Carries ended failure)
    (before : holds ended) (ordinary : failure.isOrdinary = true) (millis : Int) (opened now : T) :
    holds (.ok (.failed (Polling.breach millis opened now failure))) := by
  unfold Polling.breach
  split
  · exact closed.reportedAs (closed.brokenWindow ended failure _ millis carries before ordinary) failure
  · exact closed.clock _

theorem duringNext {millis interval : Int} {opened deadline : T} {ended value : Except Failure Result}
    {after last : World T A M} (before : holds ended)
    (chosen : Polling.duringNext millis interval opened deadline ended after = .ended value last) :
    holds value := by
  have failed (failure : Failure) (carries : Carries ended failure)
      (chosen : (if failure.isOrdinary then
          .ended (.ok (.failed (Polling.breach millis opened after.now failure))) after
        else .ended (.error failure) after : Polling.Next (World T A M) Result) =
          .ended value last) : holds value := by
    have passedOn := closed.surfaced ended failure carries before
    split at chosen
    · next ordinary =>
      cases chosen
      exact closed.breach carries before ordinary millis opened after.now
    · next signal =>
      cases chosen
      simpa [Polling.surfaced, signal] using passedOn
  cases ended with
  | error failure => exact failed failure (.raised failure) chosen
  | ok result =>
      cases result with
      | passed => exact closed.beforeDeadline closed.passed chosen
      | failed failure => exact failed failure (.failed failure) chosen
      | skipped =>
          cases chosen
          exact closed.skipped

theorem repeated {millis : Int}
    {next : (interval : Int) → (opened deadline : T) → Polling.Choice T A M}
    (keeps : ∀ {interval opened deadline ended value after last}, holds ended →
      next interval opened deadline ended after = .ended value last → holds value)
    {rest : Effect (World T A M) Result}
    (before : ∀ world ended after, rest world = some (ended, after) → holds ended)
    {bound : Nat} {world after : World T A M} {ended : Except Failure Result}
    (ran : Polling.repeated bound millis next rest world = some (ended, after)) : holds ended := by
  unfold Polling.repeated at ran
  split at ran
  · rcases Polling.exists_last_attempt ran with ⟨last, made⟩
    rcases Option.map_eq_some_iff.mp made with ⟨⟨value, reached⟩, first, chosen⟩
    exact keeps (before last value reached first) chosen
  · next fault _ =>
    cases ran
    exact closed.clock fault

/-! ## Runs -/

/-- What no guard breaks holds of the end of a run, if it holds of the ends of the rest behind some
guards, and of those that guards of unknown kinds make. -/
theorem evaluate_append (bound : Nat) {perform : Effect (World T A M) Unit} (action : A)
    {rest : List Rule} (before : ∀ world ended after,
      evaluate bound perform action rest world = some (ended, after) → holds ended)
    {outer : List Rule} (unknown : ∀ kind, .unknown kind ∈ outer → holds (.error (.unknownKind kind)))
    (world : World T A M) (ended : Except Failure Result) (after : World T A M)
    (ran : evaluate bound perform action (outer ++ rest) world = some (ended, after)) :
    holds ended := by
  induction outer generalizing world ended after with
  | nil => exact before world ended after ran
  | cons rule outer induction =>
      have behind := induction fun kind member => unknown kind (List.mem_cons_of_mem rule member)
      rw [List.cons_append] at ran
      cases rule with
      | passthrough => exact behind world ended after ran
      | conditionalSkip condition =>
          rw [GuardedSteps.evaluate] at ran
          cases verdict : Condition.check world.bindings condition with
          | met =>
              simp only [verdict] at ran
              exact behind world ended after ran
          | unmet clause =>
              simp only [verdict] at ran
              cases ran
              exact closed.skipped
          | failed failure =>
              simp only [verdict] at ran
              cases ran
              exact closed.condition world.bindings condition failure verdict
      | invert =>
          rw [evaluate_invert] at ran
          rcases Option.map_eq_some_iff.mp ran with ⟨⟨value, reached⟩, inner, same⟩
          cases same
          exact closed.inverted (behind world.inverting value reached inner)
      | delay millis =>
          cases ran
          exact closed.passed
      | within millis =>
          rw [evaluate_within] at ran
          exact closed.repeated closed.untilNext behind ran
      | during millis =>
          rw [evaluate_during] at ran
          exact closed.repeated closed.duringNext behind ran
      | expect type =>
          rw [evaluate_expect] at ran
          rcases Option.map_eq_some_iff.mp ran with ⟨⟨value, reached⟩, inner, same⟩
          cases same
          exact closed.judged type (behind world value after inner)
      | unknown kind =>
          cases ran
          exact unknown kind List.mem_cons_self

theorem evaluate (bound : Nat) {perform : Effect (World T A M) Unit} (action : A)
    (returned : ∀ world ended after, perform world = some (ended, after) →
      holds (Result.returned ended))
    {rules : List Rule} (unknown : ∀ kind, .unknown kind ∈ rules → holds (.error (.unknownKind kind)))
    (world : World T A M) (ended : Except Failure Result) (after : World T A M)
    (ran : evaluate bound perform action rules world = some (ended, after)) : holds ended := by
  rw [← List.append_nil rules] at ran
  refine closed.evaluate_append bound action (fun start value last called => ?_) unknown world ended
    after ran
  rw [GuardedSteps.evaluate, Result.ofAction_eq] at called
  rcases Option.map_eq_some_iff.mp called with ⟨⟨value, reached⟩, performed, same⟩
  cases same
  exact returned start value last performed

end Result.Closed

end GuardedSteps
