import GuardedSteps.Proofs.Number.Positive
import GuardedSteps.Proofs.Run.Calls

/-!
What polls come to. A poll that waits for its operation to succeed, and a poll that lasts as long as it
does, end exactly as the rows of their calls say: which calls there are, what passes between them, and
what the last one makes of the poll. A poll also ends when the platform refuses a sleep, and when it
cannot repeat what an error says.
-/

namespace GuardedSteps

namespace Polling

variable {σ T : Type} [ClockTime T] [Clocked σ T]

/-! ## Operations in a world of seconds -/

/-- An operation that ends in the ways that are remembered, one after the other, and then succeeds. -/
def recalling : Effect (World Float Unit (List (Except Failure Unit))) Unit := fun world =>
  match world.memory with
  | [] => some (.ok (), world)
  | ended :: rest => some (ended, { world with memory := rest })

def secondsWorld (memory : List (Except Failure Unit)) : World Float Unit (List (Except Failure Unit)) :=
  .opening [] .standard memory

/-- A state on a platform that does not sleep for centuries. -/
structure Hosted (σ : Type) where
  state : σ

-- The platform counts the nanoseconds of a sleep with 63 bits.
instance [Clocked σ Float] : Clocked (Hosted σ) Float where
  now hosted := Clocked.now hosted.state
  sleep span hosted :=
    if (9223372036854775808 : Float) ≤ span * 1000000000 then .error .tooLong
    else (Clocked.sleep span hosted.state).map Hosted.mk
  pollInterval hosted := Clocked.pollInterval hosted.state

def slowHost : Hosted (World Float Unit (List (Except Failure Unit))) :=
  ⟨{ secondsWorld [] with settings := { Settings.standard with pollInterval := 10000000000000 } }⟩

/-- A world of seconds in which a few milliseconds more make no other reading. -/
def lateWorld : World Float Unit (List (Except Failure Unit)) := { secondsWorld [] with now := 1e15 }

def vain : Failure := .raised .assertionError none

def laden : Failure := .raised .assertionError (some (.integer (10 ^ 5000)))

/-! ## Polls that wait for an operation to succeed -/

/-- The failure of a poll whose time is up is a timeout, and comes out of the last failure. -/
structure TimesOut (millis : Int) (last reported : Failure) : Prop where
  same : reported = .notFulfilled millis last
  type : reported.type = .guardTimeoutError
  lastError : reported.lastError? = some last
  cause : reported.cause? = some last

theorem timesOut (millis : Int) (last : Failure) : TimesOut millis last (.notFulfilled millis last) :=
  ⟨rfl, rfl, rfl, rfl⟩

def FailsAssertion (ended : Except Failure Unit) : Prop :=
  ∃ failure, ended = .error failure ∧ failure.isAssertion = true

/-- What the last call of a poll that waits for its operation to succeed makes of the poll. -/
inductive UntilDecides (millis : Int) (pause deadline : T) :
    Except Failure Unit → σ → Except Failure Unit → Prop
  | returned (after : σ) : UntilDecides millis pause deadline (.ok ()) after (.ok ())
  | expired {failure reported : Failure} {after : σ} (assertion : failure.isAssertion = true)
      (late : ClockTime.isOver (ClockTime.since deadline (Clocked.now after)) = true)
      (tellable : failure.isTellable = true) (timesOut : TimesOut millis failure reported) :
      UntilDecides millis pause deadline (.error failure) after (.error reported)
  /-- An assertion failed whose message cannot be repeated, and the time was up. -/
  | untold {failure : Failure} {after : σ} (assertion : failure.isAssertion = true)
      (late : ClockTime.isOver (ClockTime.since deadline (Clocked.now after)) = true)
      (untellable : failure.isTellable = false) :
      UntilDecides millis pause deadline (.error failure) after (.error .untold)
  /-- An assertion failed, and the platform did not sleep until the next call. -/
  | refused {failure : Failure} {after : σ} {fault : ClockFault} (assertion : failure.isAssertion = true)
      (refused : Refused deadline pause after fault) :
      UntilDecides millis pause deadline (.error failure) after (.error (.clock fault))
  | raised {failure : Failure} (after : σ) (other : failure.isAssertion = false) :
      UntilDecides millis pause deadline (.error failure) after (.error failure)

theorem untilDecides_iff_of_late {limit : Int} {pause deadline : T} {failure : Failure}
    (assertion : failure.isAssertion = true) {after : σ}
    (late : ClockTime.isOver (ClockTime.since deadline (Clocked.now after)) = true)
    {value : Except Failure Unit} :
    UntilDecides limit pause deadline (.error failure) after value ↔
      value = .error (failure.reportedAs (.notFulfilled limit failure)) := by
  unfold Failure.reportedAs
  constructor
  · intro decided
    cases decided with
    | expired _ _ tellable reports => rw [if_pos tellable, reports.same]
    | untold _ _ untellable => rw [if_neg (Bool.eq_false_iff.mp untellable)]
    | refused _ refused => cases late.symm.trans refused.early
    | raised _ other => cases assertion.symm.trans other
  · rintro rfl
    split
    · next tellable => exact .expired assertion late tellable (timesOut limit failure)
    · next untellable => exact .untold assertion late (Bool.eq_false_iff.mpr untellable)

section

variable {operation : Effect σ Unit} {start left : σ} {interval : Int} {pause : T}

theorem Paced.untilTurn_again_iff [ClockTime.Lasting T] (paced : Paced interval pause)
    {limit : Int} {deadline : T} {ended : Except Failure Unit} {after later : σ} :
    untilTurn limit interval deadline ended after = .again later ↔
      FailsAssertion ended ∧ Rested deadline pause after later := by
  cases ended with
  | ok => simp [untilTurn, FailsAssertion]
  | error failure =>
      by_cases assertion : failure.isAssertion = true
      · simp [untilTurn, FailsAssertion, assertion, paced.untilDeadline_again_iff]
      · simp [untilTurn, FailsAssertion, assertion]

theorem Paced.untilTurn_ended_iff (paced : Paced interval pause) {limit : Int} {deadline : T}
    {ended value : Except Failure Unit} {after : σ} :
    untilTurn limit interval deadline ended after = .ended value left ↔
      left = after ∧ UntilDecides limit pause deadline ended after value := by
  cases ended with
  | ok =>
      constructor
      · intro turn
        cases turn
        exact ⟨rfl, .returned left⟩
      · rintro ⟨rfl, decided⟩
        cases decided
        rfl
  | error failure =>
      cases assertion : failure.isAssertion with
      | true =>
          simp only [untilTurn, assertion, if_true]
          rw [paced.untilDeadline_ended_iff]
          apply and_congr_right
          rintro rfl
          constructor
          · rintro (⟨late, rfl⟩ | ⟨fault, refused, rfl⟩)
            · exact (untilDecides_iff_of_late assertion late).mpr rfl
            · exact .refused assertion refused
          · intro decided
            cases late : ClockTime.isOver (ClockTime.since deadline (Clocked.now left)) with
            | true => exact .inl ⟨rfl, (untilDecides_iff_of_late assertion late).mp decided⟩
            | false =>
                cases decided with
                | expired _ up => cases late.symm.trans up
                | untold _ up => cases late.symm.trans up
                | refused _ refused => exact .inr ⟨_, refused, rfl⟩
                | raised _ other => cases assertion.symm.trans other
      | false =>
          simp only [untilTurn, assertion, Bool.false_eq_true, if_false]
          constructor
          · intro turn
            cases turn
            exact ⟨rfl, .raised left assertion⟩
          · rintro ⟨rfl, decided⟩
            cases decided with
            | expired other => cases assertion.symm.trans other
            | untold other => cases assertion.symm.trans other
            | refused other => cases assertion.symm.trans other
            | raised => rfl

end

/-! ## Polls that last as long as an operation succeeds -/

/-- The failure of a poll in whose window its operation failed is an assertion, and comes out of this
failure. -/
structure Breaks (elapsed millis : Int) (cause reported : Failure) : Prop where
  same : reported = .brokenWindow elapsed millis cause
  type : reported.type = .guardAssertionError
  cause : reported.cause? = some cause

theorem breaks (elapsed millis : Int) (cause : Failure) :
    Breaks elapsed millis cause (.brokenWindow elapsed millis cause) :=
  ⟨rfl, rfl, rfl⟩

/-- What the last call of a poll that lasts as long as its operation succeeds makes of the poll. -/
inductive DuringDecides (millis : Int) (opened pause deadline : T) :
    Except Failure Unit → σ → Except Failure Unit → Prop
  | held {after : σ} (late : ClockTime.isOver (ClockTime.since deadline (Clocked.now after)) = true) :
      DuringDecides millis opened pause deadline (.ok ()) after (.ok ())
  /-- The operation succeeded, and the platform did not sleep until the next call. -/
  | refused {after : σ} {fault : ClockFault} (refused : Refused deadline pause after fault) :
      DuringDecides millis opened pause deadline (.ok ()) after (.error (.clock fault))
  | broken {failure reported : Failure} {after : σ} {elapsed : Int} (ordinary : failure.isOrdinary = true)
      (measured : ClockTime.wholeMillis (ClockTime.since (Clocked.now after) opened) = .ok elapsed)
      (tellable : failure.isTellable = true) (breaks : Breaks elapsed millis failure reported) :
      DuringDecides millis opened pause deadline (.error failure) after (.error reported)
  /-- The operation failed by an error whose message cannot be repeated. -/
  | untold {failure : Failure} {after : σ} {elapsed : Int} (ordinary : failure.isOrdinary = true)
      (measured : ClockTime.wholeMillis (ClockTime.since (Clocked.now after) opened) = .ok elapsed)
      (untellable : failure.isTellable = false) :
      DuringDecides millis opened pause deadline (.error failure) after (.error .untold)
  /-- The operation failed, and the clock cannot tell when. -/
  | unmeasured {failure : Failure} {after : σ} {fault : ClockFault} (ordinary : failure.isOrdinary = true)
      (unmeasured : ClockTime.wholeMillis (ClockTime.since (Clocked.now after) opened) = .error fault) :
      DuringDecides millis opened pause deadline (.error failure) after (.error (.clock fault))
  | raised {failure : Failure} (after : σ) (signal : failure.isOrdinary = false) :
      DuringDecides millis opened pause deadline (.error failure) after (.error failure)

theorem duringDecides_iff_of_ordinary {limit : Int} {opened pause deadline : T} {failure : Failure}
    (ordinary : failure.isOrdinary = true) {after : σ} {value : Except Failure Unit} :
    DuringDecides limit opened pause deadline (.error failure) after value ↔
      value = .error (breach limit opened (Clocked.now after) failure) := by
  unfold breach Failure.reportedAs
  constructor
  · intro decided
    cases decided with
    | broken _ measured tellable breaks => simp only [measured, tellable, if_true, breaks.same]
    | untold _ measured untellable => simp [measured, untellable]
    | unmeasured _ unmeasured => rw [unmeasured]
    | raised _ signal => cases ordinary.symm.trans signal
  · rintro rfl
    cases measured : ClockTime.wholeMillis (ClockTime.since (Clocked.now after) opened) with
    | ok elapsed =>
        simp only
        split
        · next tellable => exact .broken ordinary measured tellable (breaks elapsed limit failure)
        · next untellable => exact .untold ordinary measured (Bool.eq_false_iff.mpr untellable)
    | error fault => exact .unmeasured ordinary measured

section

variable {operation : Effect σ Unit} {start left : σ} {interval : Int} {pause : T}

theorem Paced.duringTurn_again_iff [ClockTime.Lasting T] (paced : Paced interval pause)
    {limit : Int} {opened deadline : T} {ended : Except Failure Unit} {after later : σ} :
    duringTurn limit interval opened deadline ended after = .again later ↔
      ended = .ok () ∧ Rested deadline pause after later := by
  cases ended with
  | ok => simp [duringTurn, paced.untilDeadline_again_iff]
  | error failure =>
      by_cases ordinary : failure.isOrdinary = true
      · simp [duringTurn, ordinary]
      · simp [duringTurn, ordinary]

theorem Paced.duringTurn_ended_iff (paced : Paced interval pause) {limit : Int}
    {opened deadline : T} {ended value : Except Failure Unit} {after : σ} :
    duringTurn limit interval opened deadline ended after = .ended value left ↔
      left = after ∧ DuringDecides limit opened pause deadline ended after value := by
  cases ended with
  | ok =>
      rw [duringTurn, paced.untilDeadline_ended_iff]
      apply and_congr_right
      rintro rfl
      constructor
      · rintro (⟨late, rfl⟩ | ⟨fault, refused, rfl⟩)
        · exact .held late
        · exact .refused refused
      · intro decided
        cases decided with
        | held late => exact .inl ⟨late, rfl⟩
        | refused refused => exact .inr ⟨_, refused, rfl⟩
  | error failure =>
      cases ordinary : failure.isOrdinary with
      | true =>
          rw [duringDecides_iff_of_ordinary ordinary]
          simp only [duringTurn, ordinary, if_true, Next.ended.injEq]
          tauto
      | false =>
          simp only [duringTurn, ordinary, Bool.false_eq_true, if_false]
          constructor
          · intro turn
            cases turn
            exact ⟨rfl, .raised left ordinary⟩
          · rintro ⟨rfl, decided⟩
            cases decided with
            | broken other => cases ordinary.symm.trans other
            | untold other => cases ordinary.symm.trans other
            | unmeasured other => cases ordinary.symm.trans other
            | raised => rfl

end

end Polling

end GuardedSteps
