import GuardedSteps.Proofs.Failure
import GuardedSteps.Run.Evaluate

/-!
Polling as a row of attempts. An attempt at the rest of a chain either leads to another attempt or
ends the poll with a result. Here the polls of a chain are shown to be such rows: the signal by which
a skip leaves the poll, and the mark that tells it from a failure, no longer appear, and a skip is a
result that ends the row.
-/

namespace GuardedSteps

namespace Polling

/-! ## Rows of attempts -/

/-- What comes of an attempt. -/
inductive Next (σ α : Type)
  | again (state : σ)
  | ended (value : Except Failure α) (state : σ)

def Next.followed {σ α : Type} (row : Effect σ α) : Next σ α → Option (Except Failure α × σ)
  | .again state => row state
  | .ended value state => some (value, state)

/-- Makes attempts until one of them is the last. -/
def attempts {σ α : Type} (attempt : σ → Option (Next σ α)) : (bound : Nat) → Effect σ α
  | 0 => fun _ => none
  | bound + 1 => fun state => (attempt state).bind (Next.followed (attempts attempt bound))

theorem attempts_succ {σ α : Type} (attempt : σ → Option (Next σ α)) (bound : Nat) (state : σ) :
    attempts attempt (bound + 1) state =
      (attempt state).bind (Next.followed (attempts attempt bound)) := rfl

/-- A row of attempts ends as its last attempt does. -/
theorem exists_last_attempt {σ α : Type} {attempt : σ → Option (Next σ α)} {bound : Nat}
    {state after : σ} {value : Except Failure α}
    (ran : attempts attempt bound state = some (value, after)) :
    ∃ last, attempt last = some (.ended value after) := by
  induction bound generalizing state with
  | zero => cases ran
  | succ bound induction =>
      rw [attempts_succ] at ran
      cases made : attempt state with
      | none =>
          rw [made] at ran
          cases ran
      | some next =>
          rw [made] at ran
          cases next with
          | again next => exact induction ran
          | ended value after =>
              cases ran
              exact ⟨state, made⟩

/-! ## What polls come to -/

variable {T A M : Type}

/-- A failure as the end of a run: a result, unless it is a signal to leave the program. -/
def surfaced (failure : Failure) : Except Failure Result :=
  if failure.isOrdinary then .ok (.failed failure) else .error failure

theorem concluded_of_isOrdinary {failure : Failure} (ordinary : failure.isOrdinary = true) :
    concluded (.error failure) false = .ok (.failed failure) := by
  simp [concluded, ordinary]

theorem concluded_error (failure : Failure) : concluded (.error failure) false = surfaced failure := by
  simp [concluded, surfaced]

def conclusion (ended : Option (Except Failure Unit × (World T A M × Bool))) :
    Option (Except Failure Result × World T A M) :=
  ended.map fun (ended, (after, skipped)) => (concluded ended skipped, after)

theorem polled_eq (poll : Effect (World T A M × Bool) Unit → Effect (World T A M × Bool) Unit)
    (rest : Effect (World T A M) Result) (world : World T A M) :
    polled poll rest world = conclusion (poll (delegated rest) (world, false)) := rfl

/-! ## Attempts at the rest of a chain -/

/-- What a poll makes of the end of an attempt, and of the world that the attempt left. -/
abbrev Choice (T A M : Type) : Type :=
  Except Failure Result → World T A M → Next (World T A M) Result

/-- One attempt at the rest of a chain. -/
def tried (rest : Effect (World T A M) Result) (next : Choice T A M) (world : World T A M) :
    Option (Next (World T A M) Result) :=
  (rest world).map fun (ended, after) => next ended after

theorem attempts_of_ran {rest : Effect (World T A M) Result} {next : Choice T A M}
    {world after : World T A M} {ended : Except Failure Result}
    (ran : rest world = some (ended, after)) (bound : Nat) :
    attempts (tried rest next) (bound + 1) world =
      (next ended after).followed (attempts (tried rest next) bound) := by
  rw [attempts_succ]
  simp [tried, ran]

/-! ## Expected errors -/

def judged (expected : ErrorType) : Except Failure Result → Except Failure Result
  | .ok .passed => .ok (.failed (.nothingThrown expected.name))
  | .ok .skipped => .ok .skipped
  | .ok (.failed failure) | .error failure =>
    if failure.type.isA expected then .ok .passed
    else if failure.isOrdinary then
      .ok (.failed (failure.reportedAs (.otherThrown expected.name failure)))
    else .error failure

theorem conclusion_expecting (expected : ErrorType) (failure : Failure) (after : World T A M)
    {operation : Effect (World T A M × Bool) Unit} {state : World T A M × Bool}
    (ran : operation state = some (.error failure, (after, false))) :
    conclusion (expecting expected operation state) =
      some (judged expected (.error failure), after) := by
  by_cases type : failure.type.isA expected = true
  · simp [expecting, ran, judged, type, conclusion, concluded]
  · by_cases ordinary : failure.isOrdinary = true
    · have proper := (Failure.proper_otherThrown expected.name failure).reportedAs failure
      simp [expecting, ran, judged, type, ordinary, conclusion, concluded_of_isOrdinary proper.1]
    · simp [expecting, ran, judged, type, ordinary, conclusion, concluded]

theorem polled_expecting (expected : ErrorType) (rest : Effect (World T A M) Result) :
    polled (expecting expected) rest = fun world =>
      (rest world).map fun (ended, after) => (judged expected ended, after) := by
  funext world
  rw [polled_eq]
  cases ran : rest world with
  | none => simp [expecting, delegated, ran, conclusion]
  | some found =>
      rcases found with ⟨ended, after⟩
      cases ended with
      | error failure =>
          exact conclusion_expecting expected failure after (by simp [delegated, ran])
      | ok result =>
          cases result with
          | passed =>
              simp [expecting, delegated, ran, conclusion, judged,
                concluded_of_isOrdinary (Failure.proper_nothingThrown expected.name).1]
          | failed failure =>
              exact conclusion_expecting expected failure after (by simp [delegated, ran])
          | skipped =>
              -- Whether or not the signal is of the expected type, only the mark counts.
              have ordinary : Failure.skipped.isOrdinary = true := by decide
              have proper := (Failure.proper_otherThrown expected.name .skipped).reportedAs .skipped
              by_cases type : Failure.skipped.type.isA expected = true
              · simp [expecting, delegated, ran, conclusion, judged, type, concluded]
              · simp [expecting, delegated, ran, conclusion, judged, type, ordinary, concluded,
                  proper.1]

/-! ## Attempts up to a deadline -/

variable [ClockTime T]

def beforeDeadline (interval : Int) (deadline : T) (final : Result) (world : World T A M) :
    Next (World T A M) Result :=
  let remaining := ClockTime.since deadline world.now
  if ClockTime.isOver remaining then .ended (.ok final) world
  else
    match ClockTime.ofMillis interval with
    | .ok span => .again (world.sleep (ClockTime.lesser span remaining))
    | .error fault => .ended (.ok (.failed (.clock fault))) world

/-- What follows an attempt of a poll that waits for the rest of a chain to pass. -/
def untilNext (millis interval : Int) (deadline : T) : Choice T A M := fun ended after =>
  match ended with
  | .ok .passed => .ended (.ok .passed) after
  | .ok .skipped => .ended (.ok .skipped) after
  | .ok (.failed failure) | .error failure =>
    if failure.isAssertion then
      beforeDeadline interval deadline (.failed (failure.reportedAs (.notFulfilled millis failure))) after
    else .ended (surfaced failure) after

def breach (millis : Int) (opened now : T) (failure : Failure) : Failure :=
  match ClockTime.wholeMillis (ClockTime.since now opened) with
  | .ok elapsed => failure.reportedAs (.brokenWindow elapsed millis failure)
  | .error fault => .clock fault

theorem proper_breach (millis : Int) (opened now : T) (failure : Failure) :
    (breach millis opened now failure).Proper := by
  unfold breach
  split
  · exact (Failure.proper_brokenWindow _ millis failure).reportedAs failure
  · exact Failure.proper_clock _

def duringNext (millis interval : Int) (opened deadline : T) : Choice T A M := fun ended after =>
  match ended with
  | .ok .passed => beforeDeadline interval deadline .passed after
  | .ok .skipped => .ended (.ok .skipped) after
  | .ok (.failed failure) | .error failure =>
    if failure.isOrdinary then .ended (.ok (.failed (breach millis opened after.now failure))) after
    else .ended (.error failure) after

def repeated (bound : Nat) (millis : Int) (next : (interval : Int) → (opened deadline : T) → Choice T A M)
    (rest : Effect (World T A M) Result) : Effect (World T A M) Result := fun world =>
  match ClockTime.ofMillis millis with
  | .ok span =>
    let deadline := ClockTime.later world.now span
    attempts (tried rest (next world.settings.pollInterval world.now deadline)) bound world
  | .error fault => some (.ok (.failed (.clock fault)), world)

/-! ## Loops over the rest of a chain -/

theorem conclusion_pause (interval : Int) {deadline : T} {final : Result} {ended : Except Failure Unit}
    {loop : Effect (World T A M × Bool) Unit} {row : Effect (World T A M) Result}
    (same : concluded ended false = .ok final)
    (next : ∀ world, conclusion (loop (world, false)) = row world) (world : World T A M) :
    conclusion (if ClockTime.isOver (ClockTime.since deadline world.now) then
        some (ended, (world, false))
      else pause interval (ClockTime.since deadline world.now) loop (world, false)) =
      (beforeDeadline interval deadline final world).followed row := by
  by_cases reached : ClockTime.isOver (ClockTime.since deadline world.now) = true
  · simp [beforeDeadline, Next.followed, reached, conclusion, same]
  · cases measured : ClockTime.ofMillis (T := T) interval with
    | error fault =>
        simp [beforeDeadline, Next.followed, reached, measured, pause, conclusion,
          concluded_of_isOrdinary (Failure.proper_clock fault).1]
    | ok span =>
        simp only [beforeDeadline, reached, measured, pause, if_false, Bool.false_eq_true]
        exact next _

/-- A loop that waits for the rest of a chain to pass is a row of attempts at it. -/
theorem conclusion_untilLoop (rest : Effect (World T A M) Result) (millis interval : Int) (deadline : T)
    (bound : Nat) (world : World T A M) :
    conclusion (untilLoop (delegated rest) millis interval deadline bound (world, false)) =
      attempts (tried rest (untilNext millis interval deadline)) bound world := by
  induction bound generalizing world with
  | zero => rfl
  | succ bound induction =>
      cases ran : rest world with
      | none => simp [attempts_succ, untilLoop, tried, delegated, ran, conclusion]
      | some found =>
          rcases found with ⟨ended, after⟩
          rw [attempts_of_ran ran]
          have failed (failure : Failure)
              (raised : delegated rest (world, false) = some (.error failure, (after, false)))
              (choice : untilNext millis interval deadline ended after = if failure.isAssertion then
                beforeDeadline interval deadline
                  (.failed (failure.reportedAs (.notFulfilled millis failure))) after
              else .ended (surfaced failure) after) :
              conclusion
                  (untilLoop (delegated rest) millis interval deadline (bound + 1) (world, false)) =
                (untilNext millis interval deadline ended after).followed
                  (attempts (tried rest (untilNext millis interval deadline)) bound) := by
            simp only [untilLoop, raised, choice]
            by_cases assertion : failure.isAssertion = true
            · simp only [assertion, if_true]
              have proper := (Failure.proper_notFulfilled millis failure).reportedAs failure
              exact conclusion_pause interval (concluded_of_isOrdinary proper.1) induction after
            · simp [assertion, Next.followed, conclusion, concluded_error]
          cases ended with
          | error failure => exact failed failure (by simp [delegated, ran]) rfl
          | ok result =>
              cases result with
              | passed =>
                  simp [untilLoop, delegated, ran, conclusion, concluded, untilNext, Next.followed]
              | failed failure => exact failed failure (by simp [delegated, ran]) rfl
              | skipped =>
                  have goesOn : Failure.skipped.isAssertion = false := by decide
                  have ordinary : Failure.skipped.isOrdinary = true := by decide
                  simp [untilLoop, delegated, ran, goesOn, ordinary, conclusion, concluded, untilNext,
                    Next.followed]

theorem broken_eq (millis : Int) (opened : T) (failure : Failure) (state : World T A M × Bool) :
    broken millis opened failure state =
      some (.error (breach millis opened state.1.now failure), state) := by
  have now : Clocked.now state = state.1.now := rfl
  unfold broken breach
  rw [now]
  cases ClockTime.wholeMillis (ClockTime.since state.1.now opened) with
  | ok elapsed => rfl
  | error fault => rfl

/-- A loop that lasts as long as the rest of a chain passes is a row of attempts at it. -/
theorem conclusion_duringLoop (rest : Effect (World T A M) Result) (millis interval : Int)
    (opened deadline : T) (bound : Nat) (world : World T A M) :
    conclusion (duringLoop (delegated rest) millis interval opened deadline bound (world, false)) =
      attempts (tried rest (duringNext millis interval opened deadline)) bound world := by
  induction bound generalizing world with
  | zero => rfl
  | succ bound induction =>
      cases ran : rest world with
      | none => simp [attempts_succ, duringLoop, tried, delegated, ran, conclusion]
      | some found =>
          rcases found with ⟨ended, after⟩
          rw [attempts_of_ran ran]
          have failed (failure : Failure)
              (raised : delegated rest (world, false) = some (.error failure, (after, false)))
              (choice : duringNext millis interval opened deadline ended after = if failure.isOrdinary then
                .ended (.ok (.failed (breach millis opened after.now failure))) after
              else .ended (.error failure) after) :
              conclusion
                  (duringLoop (delegated rest) millis interval opened deadline (bound + 1) (world, false)) =
                (duringNext millis interval opened deadline ended after).followed
                  (attempts (tried rest (duringNext millis interval opened deadline)) bound) := by
            simp only [duringLoop, raised, choice]
            by_cases ordinary : failure.isOrdinary = true
            · simp [ordinary, broken_eq, Next.followed, conclusion,
                concluded_of_isOrdinary (proper_breach millis opened after.now failure).1]
            · simp [ordinary, Next.followed, conclusion, concluded]
          cases ended with
          | error failure => exact failed failure (by simp [delegated, ran]) rfl
          | ok result =>
              cases result with
              | passed =>
                  have passed : delegated rest (world, false) = some (.ok (), (after, false)) := by
                    simp [delegated, ran]
                  have ended : concluded (.ok ()) false = .ok .passed := rfl
                  simp only [duringLoop, passed]
                  exact conclusion_pause interval ended induction after
              | failed failure => exact failed failure (by simp [delegated, ran]) rfl
              | skipped =>
                  -- The signal is wrapped, or the clock fails, but only the mark counts.
                  have ordinary : Failure.skipped.isOrdinary = true := by decide
                  have proper := proper_breach millis opened after.now .skipped
                  simp [duringLoop, delegated, ran, ordinary, broken_eq, conclusion, concluded,
                    proper.1, duringNext, Next.followed]

theorem polled_untilAsserted (bound : Nat) (millis : Int) (rest : Effect (World T A M) Result) :
    polled (untilAsserted bound millis) rest =
      repeated bound millis (fun interval _ => untilNext millis interval) rest := by
  funext world
  rw [polled_eq]
  unfold untilAsserted withDeadline repeated
  cases ClockTime.ofMillis (T := T) millis with
  | ok span => exact conclusion_untilLoop rest millis _ _ bound world
  | error fault => simp [conclusion, concluded_of_isOrdinary (Failure.proper_clock fault).1]

theorem polled_duringWindow (bound : Nat) (millis : Int) (rest : Effect (World T A M) Result) :
    polled (duringWindow bound millis) rest = repeated bound millis (duringNext millis) rest := by
  funext world
  rw [polled_eq]
  unfold duringWindow withDeadline repeated
  cases ClockTime.ofMillis (T := T) millis with
  | ok span => exact conclusion_duringLoop rest millis _ world.now _ bound world
  | error fault => simp [conclusion, concluded_of_isOrdinary (Failure.proper_clock fault).1]

end Polling

/-! ## Runs behind a guard -/

variable {T A M : Type}

def Result.returned : Except Failure Unit → Except Failure Result
  | .ok () => .ok .passed
  | .error failure => if failure.isSkip then .ok .skipped else Polling.surfaced failure

theorem Result.ofAction_eq (perform : Effect (World T A M) Unit) (world : World T A M) :
    Result.ofAction perform world =
      (perform world).map fun (ended, after) => (Result.returned ended, after) := by
  unfold Result.ofAction
  cases perform world with
  | none => rfl
  | some found =>
      rcases found with ⟨ended, after⟩
      cases ended with
      | ok => rfl
      | error failure =>
          simp only [Result.returned, Polling.surfaced, Option.map_some]
          split
          · rfl
          · split
            · rfl
            · rfl

variable [ClockTime T]

def World.inverting (world : World T A M) : World T A M :=
  { world with defaultTimeout := world.settings.invertTimeout }

theorem evaluate_invert (bound : Nat) (perform : Effect (World T A M) Unit) (action : A)
    (rest : List Rule) (world : World T A M) :
    evaluate bound perform action (.invert :: rest) world =
      (evaluate bound perform action rest world.inverting).map fun (ended, after) =>
        (ended.map Result.inverted, { after with defaultTimeout := world.defaultTimeout }) := by
  simp only [evaluate, World.withTimeout, Effect.andThen, World.inverting]
  cases evaluate bound perform action rest
      { world with defaultTimeout := world.settings.invertTimeout } with
  | none => rfl
  | some found =>
      rcases found with ⟨ended, after⟩
      cases ended with
      | ok => rfl
      | error => rfl

open Polling

theorem evaluate_within (bound : Nat) (perform : Effect (World T A M) Unit) (action : A)
    (millis : Nat) (rest : List Rule) :
    evaluate bound perform action (.within millis :: rest) =
      repeated bound millis (fun interval _ => untilNext millis interval)
        (evaluate bound perform action rest) :=
  polled_untilAsserted bound millis _

theorem evaluate_during (bound : Nat) (perform : Effect (World T A M) Unit) (action : A)
    (millis : Nat) (rest : List Rule) :
    evaluate bound perform action (.during millis :: rest) =
      repeated bound millis (duringNext millis) (evaluate bound perform action rest) :=
  polled_duringWindow bound millis _

theorem evaluate_expect (bound : Nat) (perform : Effect (World T A M) Unit) (action : A)
    (expected : ErrorType) (rest : List Rule) (world : World T A M) :
    evaluate bound perform action (.expect expected :: rest) world =
      (evaluate bound perform action rest world).map fun (ended, after) =>
        (judged expected ended, after) :=
  congrFun (polled_expecting expected _) world

end GuardedSteps
