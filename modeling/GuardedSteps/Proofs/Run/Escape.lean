import GuardedSteps.Proofs.Run.Arrivals
import GuardedSteps.Proofs.Run.Conclusion
import GuardedSteps.Proofs.Run.Dependence
import GuardedSteps.Proofs.Run.Ends
import GuardedSteps.Proofs.Run.Skip

/-!
Signals to leave the program. A signal that the action raises crosses all guards as it is: no poll
retries it, and no inversion turns it into a pass. Only a guard that expects an error of its type stops
it, and the innermost of these is the one that does.
-/

namespace GuardedSteps

variable {T A M : Type}

/-! ## Signals -/

/-- What counts as an assertion, or as the signal of a skipped step, counts as an ordinary error too. -/
structure ErrorType.Lineal (type : ErrorType) : Prop where
  assertion : type.isA .assertionError = true → type.isA .exception = true
  skip : type.isA .skipStep = true → type.isA .exception = true

instance (type : ErrorType) : Decidable type.Lineal :=
  decidable_of_iff ((type.isA .assertionError = true → type.isA .exception = true) ∧
      (type.isA .skipStep = true → type.isA .exception = true))
    ⟨fun ⟨assertion, skip⟩ => ⟨assertion, skip⟩, fun lineal => ⟨lineal.assertion, lineal.skip⟩⟩

theorem Failure.not_assertion_of_signal {failure : Failure} (signal : failure.isOrdinary = false)
    (lineal : failure.type.Lineal) : failure.isAssertion = false := by
  cases assertion : failure.isAssertion with
  | false => rfl
  | true => cases signal.symm.trans (lineal.assertion assertion)

theorem Failure.not_skip_of_signal {failure : Failure} (signal : failure.isOrdinary = false)
    (lineal : failure.type.Lineal) : failure.isSkip = false := by
  cases skip : failure.isSkip with
  | false => rfl
  | true => cases signal.symm.trans (lineal.skip skip)

theorem Result.ofAction_of_signal {perform : Effect (World T A M) Unit} {failure : Failure}
    (signal : failure.isOrdinary = false) (lineal : failure.type.Lineal) {call left : World T A M}
    (raised : perform call = some (.error failure, left)) :
    Result.ofAction perform call = some (.error failure, left) := by
  have unskipped := Failure.not_skip_of_signal signal lineal
  simp [Result.ofAction, raised, unskipped, signal]

namespace Result

/-! ## Ends without the signal -/

theorem not_carries_of_ordinary {failure other : Failure} (signal : failure.isOrdinary = false)
    (ordinary : other.isOrdinary = true) : ¬ Carries (.ok (.failed other)) failure := by
  intro carries
  cases carries
  cases signal.symm.trans ordinary

/-- No guard makes an end that carries a signal out of one that does not carry it. -/
theorem closed_not_carries {failure : Failure} (signal : failure.isOrdinary = false) :
    Closed fun ended => ¬ Carries ended failure where
  passed := nofun
  skipped := nofun
  unexpectedPass := not_carries_of_ordinary signal Failure.proper_unexpectedPass.1
  nothingThrown expected := not_carries_of_ordinary signal (Failure.proper_nothingThrown expected).1
  clock fault := not_carries_of_ordinary signal (Failure.proper_clock fault).1
  condition _ _ _ verdict := not_carries_of_ordinary signal (Condition.proper_of_check verdict).1
  surfaced ended other own free carries := by
    have same : other = failure := by
      unfold Polling.surfaced at carries
      split at carries
      · cases carries
        rfl
      · cases carries
        rfl
    exact free (same ▸ own)
  notFulfilled _ other millis _ _ _ :=
    not_carries_of_ordinary signal (Failure.proper_notFulfilled millis other).1
  untold := not_carries_of_ordinary signal Failure.proper_untold.1
  brokenWindow _ other elapsed millis _ _ _ :=
    not_carries_of_ordinary signal (Failure.proper_brokenWindow elapsed millis other).1
  otherThrown _ other expected _ _ _ :=
    not_carries_of_ordinary signal (Failure.proper_otherThrown expected other).1

theorem not_carries_judged {failure : Failure} (signal : failure.isOrdinary = false)
    {expected : ErrorType} (matching : failure.type.isA expected = true) (ended : Except Failure Result) :
    ¬ Carries (Polling.judged expected ended) failure := by
  have failed (other : Failure) : ¬ Carries (if other.type.isA expected then .ok .passed
      else if other.isOrdinary then
        .ok (.failed (other.reportedAs (.otherThrown expected.name other)))
      else .error other) failure := by
    split
    · nofun
    · next different =>
      split
      · exact not_carries_of_ordinary signal
          ((Failure.proper_otherThrown expected.name other).reportedAs other).1
      · intro carries
        cases carries
        exact different matching
  cases ended with
  | error other => exact failed other
  | ok result =>
      cases result with
      | passed => exact not_carries_of_ordinary signal (Failure.proper_nothingThrown expected.name).1
      | failed other => exact failed other
      | skipped => nofun

end Result

variable [ClockTime T]

/-! ## Runs with a signal -/

theorem Polling.judged_signal {failure : Failure} (signal : failure.isOrdinary = false)
    {expected : ErrorType} (other : failure.type.isA expected = false) :
    judged expected (.error failure) = .error failure := by
  simp [judged, other, signal]

/-- Behind guards that do not expect it, a call that raises a signal is the last event of a run, and
the run raises the signal. -/
theorem concludes_of_signal (bound : Nat) {perform : Effect (World T A M) Unit} (action : A)
    {call left : World T A M} {failure : Failure}
    (raised : perform call = some (.error failure, left)) (signal : failure.isOrdinary = false)
    (lineal : failure.type.Lineal) {rules : List Rule}
    (unexpected : ∀ type, .expect type ∈ rules → failure.type.isA type = false) (world : World T A M) :
    Concludes (· = .called call) (.error failure) (history bound perform action rules world)
      (evaluate bound perform action rules world) := by
  apply concludes_history bound action (.signal signal (Failure.not_assertion_of_signal signal lineal))
  · intro start same
    cases same
    exact ⟨left, Result.ofAction_of_signal signal lineal raised⟩
  · intro condition start same
    cases same
  · exact fun type member => Polling.judged_signal signal (unexpected type member)

theorem not_carries_of_expected (bound : Nat) (perform : Effect (World T A M) Unit) (action : A)
    {failure : Failure} (signal : failure.isOrdinary = false) {type : ErrorType} {rules : List Rule}
    (expected : .expect type ∈ rules) (matching : failure.type.isA type = true) {world after : World T A M}
    {ended : Except Failure Result}
    (ran : evaluate bound perform action rules world = some (ended, after)) :
    ¬ Result.Carries ended failure := by
  rcases List.append_of_mem expected with ⟨outer, rest, rfl⟩
  refine (Result.closed_not_carries signal).evaluate_append bound action ?_ ?_ world ended after ran
  · intro start value last inner
    rw [evaluate_expect] at inner
    rcases Option.map_eq_some_iff.mp inner with ⟨⟨value, reached⟩, _, same⟩
    cases same
    exact Result.not_carries_judged signal matching value
  · intro kind _ carries
    cases carries
    cases signal

/-- A run puts the default timeout back that its calls leave alone. What the action does in other worlds
does not count. -/
theorem leaves_defaultTimeout_of_calls (bound : Nat) {perform : Effect (World T A M) Unit} (action : A)
    {rules : List Rule} {world : World T A M}
    (kept : ∀ call ended left, .called call ∈ history bound perform action rules world →
      perform call = some (ended, left) → left.defaultTimeout = call.defaultTimeout)
    {ended : Except Failure Result} {after : World T A M}
    (ran : evaluate bound perform action rules world = some (ended, after)) :
    after.defaultTimeout = world.defaultTimeout := by
  classical
  -- The action, cut off in the worlds in which it would replace the default timeout.
  let tame : Effect (World T A M) Unit := fun call =>
    if ∀ ended left, perform call = some (ended, left) → left.defaultTimeout = call.defaultTimeout
    then perform call else none
  have leaves : tame.Leaves World.defaultTimeout := by
    intro call ended left made
    by_cases keeps : ∀ ended left, perform call = some (ended, left) → left.defaultTimeout = call.defaultTimeout
    · exact keeps ended left ((if_pos keeps).symm.trans made)
    · cases (if_neg keeps).symm.trans made
  have agree : ∀ event ∈ history bound perform action rules world, event.Agrees perform tame := by
    intro event member
    cases event with
    | called call => exact (if_pos fun ended left => kept call ended left member).symm
    | checked condition start => trivial
  rw [evaluate_congr bound action agree] at ran
  exact leaves_evaluate World.standing_defaultTimeout bound leaves action rules world ended after ran

/-- An action raises a signal to leave the program. If no guard expects an error of its type, the call
is the last one, and the run raises the signal. Otherwise the innermost guard that expects it lets the
attempt pass in which the call was made, without another call, and the run does not end in the signal.
Either way the run puts the default timeout back, unless one of its own calls replaces it for good and no
inversion is there to restore it. -/
theorem evaluate_of_signal (bound : Nat) (perform : Effect (World T A M) Unit) (action : A)
    (rules : List Rule) (world : World T A M) {call left : World T A M} {failure : Failure}
    (called : .called call ∈ history bound perform action rules world)
    (raised : perform call = some (.error failure, left)) (signal : failure.isOrdinary = false)
    (lineal : failure.type.Lineal) :
    ((∀ type, .expect type ∈ rules → failure.type.isA type = false) →
      (∀ before later, history bound perform action rules world = before ++ .called call :: later →
        later = []) ∧
      ∃ after, evaluate bound perform action rules world = some (.error failure, after)) ∧
    (∀ outer type inner, rules = outer ++ .expect type :: inner → failure.type.isA type = true →
      (∀ other, .expect other ∈ inner → failure.type.isA other = false) →
      let rest := .expect type :: inner
      (∃ start ∈ arrivals bound perform action rest outer world,
        .called call ∈ history bound perform action rest start) ∧
      (∀ start before later, history bound perform action rest start = before ++ .called call :: later →
        later = [] ∧ ∃ after, evaluate bound perform action rest start = some (.ok .passed, after)) ∧
      ∀ ended after, evaluate bound perform action rules world = some (ended, after) →
        ended ≠ .error failure ∧ ended ≠ .ok (.failed failure)) ∧
    ((∀ call ended left, .called call ∈ history bound perform action rules world →
        perform call = some (ended, left) → left.defaultTimeout = call.defaultTimeout) ∨
      .invert ∈ rules →
      ∀ ended after, evaluate bound perform action rules world = some (ended, after) →
        after.defaultTimeout = world.defaultTimeout) := by
  refine ⟨?_, ?_, ?_⟩
  · intro unexpected
    have concludes := concludes_of_signal bound action raised signal lineal unexpected world
    rcases List.append_of_mem called with ⟨before, later, split⟩
    exact ⟨fun before later split => (concludes before _ later split rfl).1,
      (concludes before _ later split rfl).2⟩
  · rintro outer type inner rfl matching unexpected
    refine ⟨exists_arrival called, ?_, ?_⟩
    · intro start before later split
      have inside := concludes_of_signal bound action raised signal lineal unexpected start
      rcases inside before _ later split rfl with ⟨last, after, ran⟩
      refine ⟨last, after, ?_⟩
      simp [evaluate_expect, ran, Polling.judged, matching]
    · intro ended after ran
      have free := not_carries_of_expected bound perform action signal (by simp) matching ran
      refine ⟨?_, ?_⟩
      · rintro rfl
        exact free (.raised failure)
      · rintro rfl
        exact free (.failed failure)
  · intro kept ended after ran
    rcases kept with calls | inverts
    · exact leaves_defaultTimeout_of_calls bound action calls ran
    · exact leaves_defaultTimeout_of_invert bound perform action inverts world ended after ran

def interrupted : Effect (World Int Unit (List Int)) Unit := fun world =>
  let type := if world.memory.isEmpty then .assertionError else ErrorType.baseException.child "KeyboardInterrupt"
  some (.error (.raised type none), { world with memory := world.memory ++ [world.now] })

theorem evaluate_interrupted :
    (∃ after, evaluate 5 interrupted () [.within 50, .expect .valueError] startingWorld =
      some (.error (.raised (ErrorType.baseException.child "KeyboardInterrupt") none), after)) ∧
    ∃ start ∈ arrivals 5 interrupted () [.expect .baseException, .within 50] [.invert] startingWorld,
      .called { startingWorld with defaultTimeout := 200, now := 10, memory := [0] } ∈
        history 5 interrupted () [.expect .baseException, .within 50] start := by
  constructor
  · have called : .called { startingWorld with now := 10, memory := [0] } ∈
        history 5 interrupted () [.within 50, .expect .valueError] startingWorld := by
      have events : history 5 interrupted () [.within 50, .expect .valueError] startingWorld =
        [.called startingWorld, .called { startingWorld with now := 10, memory := [0] }] := rfl
      simp [events]
    exact ((evaluate_of_signal 5 interrupted () [.within 50, .expect .valueError] startingWorld called
      rfl (by decide) (by decide)).1 (by simp; decide)).2
  · have called : .called { startingWorld with defaultTimeout := 200, now := 10, memory := [0] } ∈
        history 5 interrupted () [.invert, .expect .baseException, .within 50] startingWorld := by
      have events : history 5 interrupted () [.invert, .expect .baseException, .within 50] startingWorld =
        [.called { startingWorld with defaultTimeout := 200 },
          .called { startingWorld with defaultTimeout := 200, now := 10, memory := [0] }] := rfl
      simp [events]
    exact ((evaluate_of_signal 5 interrupted () [.invert, .expect .baseException, .within 50]
      startingWorld called rfl (by decide) (by decide)).2.1 [.invert] .baseException [.within 50] rfl
      (by decide) (by simp)).1

def meddling : Effect (World Int Unit (List Int)) Unit := fun world =>
  some (.error (.raised (ErrorType.baseException.child "KeyboardInterrupt") none),
    { world with defaultTimeout := 70 })

/-- Without an inversion, the default timeout is not put back that the interrupted call has replaced. And
behind an interruption that is expected, a guard in front may call the action again. -/
theorem not_untouched_by_signal :
    (∃ after, evaluate 2 meddling () [.within 50] startingWorld =
      some (.error (.raised (ErrorType.baseException.child "KeyboardInterrupt") none), after) ∧
        after.defaultTimeout ≠ startingWorld.defaultTimeout) ∧
    (Event.calls (history 9
      (Effect.raise (.raised (ErrorType.baseException.child "KeyboardInterrupt") none)) ()
      [.during 20, .expect (ErrorType.baseException.child "KeyboardInterrupt")] startingWorld)).map
        World.now = [0, 10, 20] := by
  constructor
  · exact ⟨_, rfl, by decide⟩
  · decide +kernel

end GuardedSteps
