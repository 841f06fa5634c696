import GuardedSteps.Proofs.Run.Following

/-!
The history of a run. Behind its guards a step calls its action and checks conditions, in an order
that every guard and every further attempt takes part in. The history lists these events; whoever
watches the calls and the unmet conditions of a run sees those of the history, and no others.
-/

namespace GuardedSteps

/-! ## Events -/

/-- What happens while a step runs, with the world in which it happens. -/
inductive Event (T A M : Type)
  | called (world : World T A M)
  | checked (condition : String) (world : World T A M)

namespace Event

variable {T A M : Type}

def IsSkip (perform : Effect (World T A M) Unit) : Event T A M → Prop
  | called world =>
    ∃ failure after, perform world = some (.error failure, after) ∧ failure.isSkip = true
  | checked condition world => ∃ clause, Condition.check world.bindings condition = .unmet clause

end Event

variable {T A M : Type} [ClockTime T]

/-! ## Histories -/

def Polling.attemptsHistory {σ α ε : Type} (attempt : σ → Option (Next σ α)) (past : σ → List ε) :
    (bound : Nat) → σ → List ε
  | 0, _ => []
  | bound + 1, state =>
    past state ++
      match attempt state with
      | some (.again next) => attemptsHistory attempt past bound next
      | _ => []

def Polling.repeatedHistory {ε : Type} (bound : Nat) (millis : Int)
    (next : (interval : Int) → (opened deadline : T) → Choice T A M)
    (rest : Effect (World T A M) Result) (past : World T A M → List ε)
    (world : World T A M) : List ε :=
  match ClockTime.ofMillis millis with
  | .ok span =>
    let deadline := ClockTime.later world.now span
    attemptsHistory (tried rest (next world.settings.pollInterval world.now deadline)) past bound world
  | .error _ => []

/-- The events of running an action behind rules, in order. What happens behind a delay happens in
the background. -/
def history (bound : Nat) (perform : Effect (World T A M) Unit) (action : A) :
    List Rule → World T A M → List (Event T A M)
  | [], world => [.called world]
  | .passthrough :: rest, world | .expect _ :: rest, world => history bound perform action rest world
  | .conditionalSkip condition :: rest, world =>
    .checked condition world ::
      match Condition.check world.bindings condition with
      | .met => history bound perform action rest world
      | _ => []
  | .invert :: rest, world =>
    history bound perform action rest world.inverting
  | .within millis :: rest, world =>
    Polling.repeatedHistory bound millis (fun interval _ => Polling.untilNext millis interval)
      (evaluate bound perform action rest) (history bound perform action rest) world
  | .during millis :: rest, world =>
    Polling.repeatedHistory bound millis (Polling.duringNext millis)
      (evaluate bound perform action rest) (history bound perform action rest) world
  | .delay _ :: _, _ | .unknown _ :: _, _ => []

/-! ## Watching a run -/

/-- What is seen of a world grows with the calls of the action and the notes of unmet conditions, by
what marks these events, and with nothing else. -/
structure Watches {K : Type} (perform : Effect (World T A M) Unit) (seen : World T A M → List K)
    (mark : Event T A M → List K) : Prop where
  called : ∀ world ended after, perform world = some (ended, after) →
    seen after = seen world ++ mark (.called world)
  met : ∀ condition world, Condition.check world.bindings condition = .met →
    mark (.checked condition world) = []
  unmet : ∀ condition world clause, Condition.check world.bindings condition = .unmet clause →
    seen (world.note (.unmet clause)) = seen world ++ mark (.checked condition world)
  unchecked : ∀ condition world failure, Condition.check world.bindings condition = .failed failure →
    mark (.checked condition world) = []
  /-- Waiting is not seen, nor another default timeout. -/
  idle : ∀ world now timeout, seen { world with now := now, defaultTimeout := timeout } = seen world
  delayed : ∀ world millis rules action, seen (world.delay millis rules action) = seen world

section

variable {K : Type} {perform : Effect (World T A M) Unit} {seen : World T A M → List K}
  {mark : Event T A M → List K}

theorem seen_attempts (watches : Watches perform seen mark) {interval : Int} {deadline : T}
    {next : Polling.Choice T A M} (lawful : Polling.Lawful interval deadline next)
    {rest : Effect (World T A M) Result} {past : World T A M → List (Event T A M)}
    (inner : ∀ world ended after, rest world = some (ended, after) →
      seen after = seen world ++ (past world).flatMap mark)
    {bound : Nat} {world after : World T A M} {ended : Except Failure Result}
    (ran : Polling.attempts (Polling.tried rest next) bound world = some (ended, after)) :
    seen after = seen world ++
      (Polling.attemptsHistory (Polling.tried rest next) past bound world).flatMap mark := by
  induction bound generalizing world with
  | zero => cases ran
  | succ bound induction =>
      unfold Polling.attemptsHistory
      cases first : rest world with
      | none => simp [Polling.attempts_succ, Polling.tried, first] at ran
      | some found =>
          rcases found with ⟨value, reached⟩
          have made : Polling.tried rest next world = some (next value reached) := by
            simp [Polling.tried, first]
          have follows := lawful.follows value reached
          rw [Polling.attempts_of_ran first] at ran
          rw [made]
          cases choice : next value reached with
          | ended last after =>
              rw [choice] at ran follows
              cases ran
              simp [follows.1, inner world value reached first]
          | again later =>
              rw [choice] at ran follows
              have rested : seen later = seen reached := by
                rcases follows with ⟨-, -, -, rfl⟩
                exact watches.idle reached _ reached.defaultTimeout
              rw [induction ran, rested, inner world value reached first]
              simp

theorem seen_repeated (watches : Watches perform seen mark) {millis : Int}
    {next : (interval : Int) → (opened deadline : T) → Polling.Choice T A M}
    (lawful : ∀ interval opened deadline,
      Polling.Lawful interval deadline (next interval opened deadline))
    {rest : Effect (World T A M) Result} {past : World T A M → List (Event T A M)}
    (inner : ∀ world ended after, rest world = some (ended, after) →
      seen after = seen world ++ (past world).flatMap mark)
    {bound : Nat} {world after : World T A M} {ended : Except Failure Result}
    (ran : Polling.repeated bound millis next rest world = some (ended, after)) :
    seen after = seen world ++
      (Polling.repeatedHistory bound millis next rest past world).flatMap mark := by
  unfold Polling.repeated at ran
  unfold Polling.repeatedHistory
  cases measured : ClockTime.ofMillis (T := T) millis with
  | ok span =>
      rw [measured] at ran
      exact seen_attempts watches (lawful _ _ _) inner ran
  | error fault =>
      rw [measured] at ran
      cases ran
      simp

/-- What is seen of a run are the events of its history. -/
theorem seen_evaluate (bound : Nat) (action : A) (watches : Watches perform seen mark)
    (rules : List Rule) (world : World T A M) (ended : Except Failure Result) (after : World T A M)
    (ran : evaluate bound perform action rules world = some (ended, after)) :
    seen after = seen world ++ (history bound perform action rules world).flatMap mark := by
  induction rules generalizing world ended after with
  | nil =>
      rw [evaluate, Result.ofAction_eq] at ran
      rcases Option.map_eq_some_iff.mp ran with ⟨⟨value, reached⟩, called, same⟩
      cases same
      simpa [history] using watches.called world value after called
  | cons rule rest induction =>
      cases rule with
      | passthrough => exact induction world ended after ran
      | conditionalSkip condition =>
          rw [evaluate] at ran
          cases verdict : Condition.check world.bindings condition with
          | met =>
              simp only [history, verdict] at ran ⊢
              rw [List.flatMap_cons, watches.met condition world verdict]
              exact induction world ended after ran
          | unmet clause =>
              simp only [history, verdict] at ran ⊢
              cases ran
              simpa using watches.unmet condition world clause verdict
          | failed failure =>
              simp only [history, verdict] at ran ⊢
              cases ran
              simp [watches.unchecked condition world failure verdict]
      | invert =>
          rw [evaluate_invert] at ran
          rcases Option.map_eq_some_iff.mp ran with ⟨⟨value, reached⟩, inner, same⟩
          cases same
          have before : seen world.inverting = seen world := watches.idle world world.now _
          have restored := watches.idle reached reached.now world.defaultTimeout
          rw [← before]
          exact restored.trans (induction world.inverting value reached inner)
      | delay millis =>
          cases ran
          simpa [history] using watches.delayed world millis rest action
      | within millis =>
          rw [evaluate_within] at ran
          exact seen_repeated watches (fun interval _ => Polling.lawful_untilNext millis interval) induction ran
      | during millis =>
          rw [evaluate_during] at ran
          exact seen_repeated watches (Polling.lawful_duringNext millis) induction ran
      | expect type =>
          rw [evaluate_expect] at ran
          rcases Option.map_eq_some_iff.mp ran with ⟨⟨value, reached⟩, inner, same⟩
          cases same
          exact induction world value after inner
      | unknown kind =>
          cases ran
          simp [history]

end

end GuardedSteps
