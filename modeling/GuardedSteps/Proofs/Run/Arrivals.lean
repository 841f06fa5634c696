import GuardedSteps.Proofs.Run.Deed

/-!
Arrivals. Polls run the rest of a chain several times, conditions may keep it from running at all, and
inversions change the world in which it starts. A run arrives at the rest of its chain in a row of
worlds; the calls of the action are those of the rest in these worlds, in order.
-/

namespace GuardedSteps

variable {T A M : Type}

namespace Event

theorem calls_append (past more : List (Event T A M)) : calls (past ++ more) = calls past ++ calls more :=
  List.filterMap_append

theorem calls_checked (condition : String) (world : World T A M) (later : List (Event T A M)) :
    calls (.checked condition world :: later) = calls later := rfl

end Event

namespace Polling

theorem calls_attemptsHistory {σ α : Type} {past : σ → List (Event T A M)} {starts : σ → List (World T A M)}
    {calls : World T A M → List (World T A M)}
    (same : ∀ state, Event.calls (past state) = (starts state).flatMap calls)
    (attempt : σ → Option (Next σ α)) (bound : Nat) (state : σ) :
    Event.calls (attemptsHistory attempt past bound state) =
      (attemptsHistory attempt starts bound state).flatMap calls := by
  induction bound generalizing state with
  | zero => rfl
  | succ bound induction =>
      unfold attemptsHistory
      rw [Event.calls_append, List.flatMap_append, same]
      cases attempt state with
      | none => rfl
      | some next =>
          cases next with
          | again later => exact congrArg _ (induction later)
          | ended value after => rfl

end Polling

variable [ClockTime T]

theorem Polling.calls_repeatedHistory {past : World T A M → List (Event T A M)}
    {starts calls : World T A M → List (World T A M)}
    (same : ∀ world, Event.calls (past world) = (starts world).flatMap calls) (bound : Nat) (millis : Int)
    (next : (interval : Int) → (opened deadline : T) → Choice T A M)
    (rest : Effect (World T A M) Result) (world : World T A M) :
    Event.calls (repeatedHistory bound millis next rest past world) =
      (repeatedHistory bound millis next rest starts world).flatMap calls := by
  unfold repeatedHistory
  cases ClockTime.ofMillis (T := T) millis with
  | ok span => exact calls_attemptsHistory same _ bound world
  | error fault => rfl

/-- The worlds in which a run behind some guards arrives at the rest of its chain, in order. -/
def arrivals (bound : Nat) (perform : Effect (World T A M) Unit) (action : A) (rest : List Rule) :
    (outer : List Rule) → World T A M → List (World T A M)
  | [], world => [world]
  | .passthrough :: outer, world | .expect _ :: outer, world =>
    arrivals bound perform action rest outer world
  | .conditionalSkip condition :: outer, world =>
    match Condition.check world.bindings condition with
    | .met => arrivals bound perform action rest outer world
    | _ => []
  | .invert :: outer, world => arrivals bound perform action rest outer world.inverting
  | .within millis :: outer, world =>
    Polling.repeatedHistory bound millis (fun interval _ => Polling.untilNext millis interval)
      (evaluate bound perform action (outer ++ rest)) (arrivals bound perform action rest outer) world
  | .during millis :: outer, world =>
    Polling.repeatedHistory bound millis (Polling.duringNext millis)
      (evaluate bound perform action (outer ++ rest)) (arrivals bound perform action rest outer) world
  | .delay _ :: _, _ | .unknown _ :: _, _ => []

/-- The calls of a run are the calls of the rest of its chain where the run arrives at it. -/
theorem calls_history_append (bound : Nat) (perform : Effect (World T A M) Unit) (action : A)
    (outer rest : List Rule) (world : World T A M) :
    Event.calls (history bound perform action (outer ++ rest) world) =
      (arrivals bound perform action rest outer world).flatMap fun start =>
        Event.calls (history bound perform action rest start) := by
  induction outer generalizing world with
  | nil => simp [arrivals]
  | cons rule outer induction =>
      rw [List.cons_append]
      cases rule with
      | passthrough => exact induction world
      | conditionalSkip condition =>
          rw [history, Event.calls_checked, arrivals]
          cases Condition.check world.bindings condition with
          | met => exact induction world
          | unmet clause => rfl
          | failed failure => rfl
      | invert => exact induction world.inverting
      | delay millis => rfl
      | within millis => exact Polling.calls_repeatedHistory induction bound millis _ _ world
      | during millis => exact Polling.calls_repeatedHistory induction bound millis _ _ world
      | expect type => exact induction world
      | unknown kind => rfl

theorem exists_arrival {bound : Nat} {perform : Effect (World T A M) Unit} {action : A}
    {outer rest : List Rule} {world call : World T A M}
    (called : .called call ∈ history bound perform action (outer ++ rest) world) :
    ∃ start ∈ arrivals bound perform action rest outer world,
      .called call ∈ history bound perform action rest start := by
  rw [← Event.mem_calls_iff, calls_history_append, List.mem_flatMap] at called
  rcases called with ⟨start, arrived, inner⟩
  exact ⟨start, arrived, Event.mem_calls_iff.mp inner⟩

theorem not_called_of_delay (bound : Nat) (perform : Effect (World T A M) Unit) (action : A)
    (front : List Rule) (millis : Nat) (behind : List Rule) (world start : World T A M) :
    .called start ∉ history bound perform action (front ++ .delay millis :: behind) world := by
  intro called
  rcases exists_arrival called with ⟨arrived, _, inner⟩
  cases inner

end GuardedSteps
