import GuardedSteps.Proofs.Run.Arrivals
import GuardedSteps.Proofs.Run.Outcome
import GuardedSteps.Proofs.Run.Termination

/-!
Background work. In the foreground a step with a delay among its guards ends as soon as the delay is
registered, however often the guards in front of the delay try it. What stands behind the delay, and
the action itself, have no influence on how the step ends, nor on anything that it leaves but the work
that is waiting.
-/

namespace GuardedSteps

/-! ## Views of a state -/

/-- Of the states only a view is taken; in the view one effect does what the other one does. -/
def Effect.Mirrors {σ τ α : Type} (view : σ → τ) (effect : Effect σ α) (image : Effect τ α) : Prop :=
  ∀ state, (effect state).map (fun (ended, after) => (ended, view after)) = image (view state)

namespace Polling

def Next.map {σ τ α : Type} (view : σ → τ) : Next σ α → Next τ α
  | .again state => .again (view state)
  | .ended value state => .ended value (view state)

theorem mirrors_attempts {σ τ α : Type} {view : σ → τ} {attempt : σ → Option (Next σ α)}
    {image : τ → Option (Next τ α)}
    (same : ∀ state, (attempt state).map (Next.map view) = image (view state)) (bound : Nat) :
    (attempts attempt bound).Mirrors view (attempts image bound) := by
  induction bound with
  | zero => exact fun _ => rfl
  | succ bound induction =>
      intro state
      rw [attempts_succ, attempts_succ, ← same]
      cases attempt state with
      | none => rfl
      | some next =>
          cases next with
          | again later => exact induction later
          | ended value after => rfl

end Polling

variable {T A M : Type}

/-! ## The foreground -/

def Waiting.outline (delayed : Waiting T A) : Waiting T Unit where
  serial := delayed.serial
  started := delayed.started
  millis := delayed.millis
  rules := []
  action := ()

/-- A world without what waits behind delays and without what actions remember. -/
def World.foreground (world : World T A M) : World T Unit Unit :=
  { world with waiting := world.waiting.map Waiting.outline, memory := () }

variable [ClockTime T]

namespace Polling

theorem beforeDeadline_foreground (interval : Int) (deadline : T) (final : Result)
    (world : World T A M) : (beforeDeadline interval deadline final world).map World.foreground =
      beforeDeadline interval deadline final world.foreground := by
  have now : world.foreground.now = world.now := rfl
  simp only [beforeDeadline, now]
  split
  · rfl
  · cases ClockTime.ofMillis (T := T) interval with
    | ok span => rfl
    | error fault => rfl

def Choice.Mirrors (next : Choice T A M) (image : Choice T Unit Unit) : Prop :=
  ∀ ended after, (next ended after).map World.foreground = image ended after.foreground

theorem mirrors_untilNext (millis interval : Int) (deadline : T) :
    Choice.Mirrors (A := A) (M := M) (untilNext millis interval deadline)
      (untilNext millis interval deadline) := by
  intro ended after
  have failed (failure : Failure) :
      let expired := Result.failed (failure.reportedAs (.notFulfilled millis failure))
      (if failure.isAssertion then beforeDeadline interval deadline expired after
        else .ended (surfaced failure) after).map World.foreground =
      if failure.isAssertion then beforeDeadline interval deadline expired after.foreground
        else .ended (surfaced failure) after.foreground := by
    intro expired
    split
    · exact beforeDeadline_foreground interval deadline expired after
    · rfl
  cases ended with
  | error failure => exact failed failure
  | ok result =>
      cases result with
      | passed => rfl
      | failed failure => exact failed failure
      | skipped => rfl

theorem mirrors_duringNext (millis interval : Int) (opened deadline : T) :
    Choice.Mirrors (A := A) (M := M) (duringNext millis interval opened deadline)
      (duringNext millis interval opened deadline) := by
  intro ended after
  have failed (failure : Failure) :
      (if failure.isOrdinary then
          .ended (.ok (.failed (breach millis opened after.now failure))) after
        else .ended (.error failure) after : Next (World T A M) Result).map World.foreground =
      if failure.isOrdinary then
          .ended (.ok (.failed (breach millis opened after.now failure))) after.foreground
        else .ended (.error failure) after.foreground := by
    split
    · rfl
    · rfl
  cases ended with
  | error failure => exact failed failure
  | ok result =>
      cases result with
      | passed => exact beforeDeadline_foreground interval deadline .passed after
      | failed failure => exact failed failure
      | skipped => rfl

omit [ClockTime T] in
theorem tried_foreground {next : Choice T A M} {image : Choice T Unit Unit} (same : next.Mirrors image)
    {rest : Effect (World T A M) Result} {other : Effect (World T Unit Unit) Result}
    (mirrors : rest.Mirrors World.foreground other) (world : World T A M) :
    (tried rest next world).map (Next.map World.foreground) = tried other image world.foreground := by
  unfold tried
  rw [← mirrors world]
  cases rest world with
  | none => rfl
  | some found => exact congrArg some (same found.1 found.2)

theorem mirrors_repeated {millis : Int}
    {next : (interval : Int) → (opened deadline : T) → Choice T A M}
    {image : (interval : Int) → (opened deadline : T) → Choice T Unit Unit}
    (same : ∀ interval opened deadline,
      (next interval opened deadline).Mirrors (image interval opened deadline))
    {rest : Effect (World T A M) Result} {other : Effect (World T Unit Unit) Result}
    (mirrors : rest.Mirrors World.foreground other) (bound : Nat) :
    (repeated bound millis next rest).Mirrors World.foreground (repeated bound millis image other) := by
  intro world
  have now : world.foreground.now = world.now := rfl
  have settings : world.foreground.settings = world.settings := rfl
  unfold repeated
  rw [now, settings]
  cases ClockTime.ofMillis (T := T) millis with
  | error fault => rfl
  | ok span => exact mirrors_attempts (tried_foreground (same _ _ _) mirrors) bound world

end Polling

/-! ## Steps with a delay -/

def Undelayed (rules : List Rule) : Prop := ∀ rule ∈ rules, ∀ millis, rule ≠ .delay millis

/-- In the foreground, nothing but the guards up to the first delay counts. -/
theorem mirrors_evaluate (bound : Nat) (perform : Effect (World T A M) Unit) (action : A)
    {front : List Rule} (undelayed : Undelayed front) (millis : Nat) (behind : List Rule) :
    (evaluate bound perform action (front ++ .delay millis :: behind)).Mirrors World.foreground
      (evaluate bound (Effect.done ()) () (front ++ [.delay millis])) := by
  induction front with
  | nil =>
      intro world
      simp [evaluate, World.delay, World.foreground, Waiting.outline]
  | cons rule rest induction =>
      intro world
      rcases List.forall_mem_cons.mp undelayed with ⟨own, others⟩
      have inner := induction others
      simp only [List.cons_append]
      cases rule with
      | passthrough => exact inner world
      | conditionalSkip condition =>
          have bindings : world.foreground.bindings = world.bindings := rfl
          simp only [evaluate, bindings]
          cases Condition.check world.bindings condition with
          | met => exact inner world
          | unmet clause => rfl
          | failed failure => rfl
      | invert =>
          have inverting : world.foreground.inverting = world.inverting.foreground := rfl
          rw [evaluate_invert, evaluate_invert, inverting, ← inner world.inverting]
          cases evaluate bound perform action (rest ++ .delay millis :: behind) world.inverting with
          | none => rfl
          | some found => rfl
      | delay other => exact absurd rfl (own other)
      | within limit =>
          rw [evaluate_within, evaluate_within]
          exact Polling.mirrors_repeated (fun interval _ => Polling.mirrors_untilNext limit interval)
            inner bound world
      | during limit =>
          rw [evaluate_during, evaluate_during]
          exact Polling.mirrors_repeated (Polling.mirrors_duringNext limit) inner bound world
      | expect type =>
          rw [evaluate_expect, evaluate_expect, ← inner world]
          cases evaluate bound perform action (rest ++ .delay millis :: behind) world with
          | none => rfl
          | some found => rfl
      | unknown kind => rfl

theorem leaves_memory_of_delay (bound : Nat) (perform : Effect (World T A M) Unit) (action : A)
    (front : List Rule) (millis : Nat) (behind : List Rule) :
    (evaluate bound perform action (front ++ .delay millis :: behind)).Leaves World.memory := by
  have standing : World.Standing (World.memory : World T A M → M) :=
    ⟨fun _ _ _ _ _ _ _ => rfl, fun _ _ _ kept => kept⟩
  apply leaves_evaluate_append standing
  intro world ended after delayed
  cases delayed
  rfl

/-- A run that comes to a delay ends if the polls in front do, whatever the action is. -/
theorem finishes_of_delay {K : Type} [Preorder K] {seconds : T → K} (perform : Effect (World T A M) Unit)
    (action : A) (front : List Rule) (millis : Nat) (behind : List Rule) {world : World T A M}
    (ends : EndsPolls seconds front world.now) (paced : 0 < world.settings.pollInterval) :
    Finishes seconds
      (fun bound => evaluate bound perform action (front ++ .delay millis :: behind)) world := by
  refine finishes_evaluate_append perform action front (fun start pacedStart => ?_) world ends paced
  have delayed : Onward seconds start (start.delay millis behind action) := Onward.refl pacedStart
  exact delayed.finishes (.ok .passed) fun _ => rfl

theorem exists_result_of_delay {front : List Rule} (known : ∀ rule ∈ front, ∀ kind, rule ≠ .unknown kind)
    {millis : Nat} {behind : List Rule} {bound : Nat} {perform : Effect (World T A M) Unit} {action : A}
    {world left : World T A M} {ended : Except Failure Result}
    (ran : evaluate bound perform action (front ++ .delay millis :: behind) world = some (ended, left)) :
    ∃ result, ended = .ok result := by
  have ends : Result.EndsProperly ended := by
    refine Result.closed_endsProperly.evaluate_append bound action ?_
      (fun kind member => absurd rfl (known _ member kind)) world ended left ran
    intro start value last delayed
    cases delayed
    trivial
  cases ended with
  | ok result => exact ⟨result, rfl⟩
  | error failure => exact ends.elim

theorem exists_alike {front : List Rule} (undelayed : Undelayed front) {millis : Nat}
    {behind : List Rule} (behindOther : List Rule) {bound : Nat} {perform : Effect (World T A M) Unit}
    (performOther : Effect (World T A M) Unit) {action : A} (actionOther : A) {world left : World T A M}
    {ended : Except Failure Result}
    (ran : evaluate bound perform action (front ++ .delay millis :: behind) world = some (ended, left)) :
    ∃ right, evaluate bound performOther actionOther (front ++ .delay millis :: behindOther) world =
      some (ended, right) ∧ left.foreground = right.foreground := by
  have image := mirrors_evaluate bound perform action undelayed millis behind world
  have imageOther := mirrors_evaluate bound performOther actionOther undelayed millis behindOther world
  rw [ran, Option.map_some] at image
  rw [← image] at imageOther
  rcases Option.map_eq_some_iff.mp imageOther with ⟨⟨value, right⟩, ranOther, same⟩
  simp only [Prod.mk.injEq] at same
  rcases same with ⟨rfl, same⟩
  exact ⟨right, ranOther, same.symm⟩

/-- Two steps have the same guards up to their first delay. From one world they end in the same result
and leave the same in the foreground: the default timeout, the variables, the clock, and as many delays
that have been registered. Neither calls its action, and both end if the polls in front do. -/
theorem evaluate_foreground {front : Chain} (validated : front.Validated)
    (undelayed : Undelayed (front.map (·.rule))) {gate : Guard} {millis : Nat}
    (delays : gate.rule = .delay millis) (behind behindOther : Chain)
    (perform performOther : Effect (World T A M) Unit) (action actionOther : A) (world : World T A M) :
    let rules := (front ++ gate :: behind).map (·.rule)
    let rulesOther := (front ++ gate :: behindOther).map (·.rule)
    (∀ bound ended left, evaluate bound perform action rules world = some (ended, left) →
      ∃ result right, ended = .ok result ∧
        evaluate bound performOther actionOther rulesOther world = some (.ok result, right) ∧
        left.foreground = right.foreground ∧ left.memory = world.memory ∧ right.memory = world.memory) ∧
    (∀ bound start, .called start ∉ history bound perform action rules world ∧
      .called start ∉ history bound performOther actionOther rulesOther world) ∧
    ∀ {K : Type} [Preorder K] {seconds : T → K}, EndsPolls seconds (front.map (·.rule)) world.now →
      0 < world.settings.pollInterval → ∃ enough ended left, ∀ bound, enough ≤ bound →
        evaluate bound perform action rules world = some (ended, left) := by
  have split (later : Chain) : (front ++ gate :: later).map (·.rule) =
      front.map (·.rule) ++ .delay millis :: later.map (·.rule) := by simp [delays]
  simp only [split]
  refine ⟨?_, ?_, ?_⟩
  · intro bound ended left ran
    rcases exists_result_of_delay validated.known ran with ⟨result, rfl⟩
    rcases exists_alike undelayed (behindOther.map (·.rule)) performOther actionOther ran with
      ⟨right, ranOther, same⟩
    exact ⟨result, right, rfl, ranOther, same, leaves_memory_of_delay _ _ _ _ _ _ _ _ _ ran,
      leaves_memory_of_delay _ _ _ _ _ _ _ _ _ ranOther⟩
  · intro bound start
    exact ⟨not_called_of_delay bound perform action _ millis _ world start,
      not_called_of_delay bound performOther actionOther _ millis _ world start⟩
  · intro K _ seconds ends paced
    rcases finishes_of_delay perform action (front.map (·.rule)) millis (behind.map (·.rule)) ends paced
      with ⟨enough, ended, left, -, finished⟩
    exact ⟨enough, ended, left, finished⟩

theorem foreground_hesitant : ∃ result left right,
    evaluate 9 (Effect.done ()) () [.within 15, .invert, .delay 5] startingWorld =
      some (.ok result, left) ∧
    evaluate 9 hesitant () [.within 15, .invert, .delay 5, .invert, .passthrough] startingWorld =
      some (.ok result, right) ∧
    left.foreground = right.foreground ∧ left.pending = [0, 1, 2] ∧ right.memory = [] := by
  have validated : Chain.Validated [⟨.within 15, {}⟩, ⟨.invert, {}⟩] := by
    have within : Guard.Validated ⟨.within 15, {}⟩ := by
      refine ⟨by simp, ?_⟩
      rintro millis ⟨⟩
      decide
    have invert : Guard.Validated ⟨.invert, {}⟩ := ⟨by simp, by simp [Guard.millis?]⟩
    exact List.forall_mem_cons.mpr ⟨within, List.forall_mem_singleton.mpr invert⟩
  have undelayed : Undelayed [.within 15, .invert] := by simp [Undelayed]
  have delays : Guard.rule ⟨.delay 5, {}⟩ = .delay 5 := rfl
  have alike := evaluate_foreground validated undelayed delays []
    [⟨.invert, {}⟩, Guard.always] (Effect.done ()) hesitant () () startingWorld
  rcases alike.1 9 _ _ rfl with ⟨result, right, same, ran, foreground, -, kept⟩
  exact ⟨result, _, right, same ▸ rfl, ran, foreground, rfl, kept⟩

end GuardedSteps
