import GuardedSteps.Proofs.Run.Deed

/-!
Chronicles. While deeds are done in a world, delays are started and cancelled, delayed steps wake up, and
actions are called in the foreground or behind a delay. The chronicle of a row of deeds lists all this in
the order in which it happens. Whatever says how a world follows from another by such occurrences, and
does so for each of them, does so for whole chronicles.
-/

namespace GuardedSteps

inductive Occurrence (A : Type)
  | started (serial : Nat)
  | cancelled
  | dropped (serial : Nat)
  | entered (serial : Nat)
  | called (thread : Option Nat) (action : A)
  deriving DecidableEq

def Occurrence.calls {A : Type} (past : List (Occurrence A)) : List A :=
  past.filterMap fun
    | .called _ action => some action
    | _ => none

theorem Effect.exists_of_andThen {σ α β : Type} {first : Effect σ α} {next : α → Effect σ β}
    (leaves : ∀ value, (next value).Leaves id) {state after : σ} {ended : Except Failure β}
    (ran : first.andThen next state = some (ended, after)) : ∃ value, first state = some (value, after) := by
  unfold Effect.andThen at ran
  split at ran
  · next value reached begun =>
    have same : after = reached := leaves value reached ended after ran
    exact ⟨_, same ▸ begun⟩
  · next failure reached begun =>
    cases ran
    exact ⟨_, begun⟩
  · cases ran

variable {T A M : Type} [ClockTime T]

/-! ## The chronicle of a run -/

/-- What happens while an action runs behind rules, in the foreground or in the run of a delayed step.
What the action does itself, `own`, comes behind each of its calls. -/
def chronicle (bound : Nat) (perform : Effect (World T A M) Unit)
    (own : World T A M → List (Occurrence A)) (thread : Option Nat) (action : A) :
    List Rule → World T A M → List (Occurrence A)
  | [], world => .called thread action :: own world
  | .passthrough :: rest, world | .expect _ :: rest, world =>
    chronicle bound perform own thread action rest world
  | .conditionalSkip condition :: rest, world =>
    match Condition.check world.bindings condition with
    | .met => chronicle bound perform own thread action rest world
    | _ => []
  | .invert :: rest, world => chronicle bound perform own thread action rest world.inverting
  | .within millis :: rest, world =>
    Polling.repeatedHistory bound millis (fun interval _ => Polling.untilNext millis interval)
      (evaluate bound perform action rest) (chronicle bound perform own thread action rest) world
  | .during millis :: rest, world =>
    Polling.repeatedHistory bound millis (Polling.duringNext millis)
      (evaluate bound perform action rest) (chronicle bound perform own thread action rest) world
  | .delay _ :: _, world => [.started world.nextSerial]
  | .unknown _ :: _, _ => []

namespace World

def taken (serial : Nat) (world : World T A M) : World T A M :=
  { world with waiting := world.waiting.filter (·.serial != serial) }.release serial

def wakeChronicle (bound : Nat) (actions : Actions T A M)
    (own : Option Nat → A → World T A M → List (Occurrence A)) (serial : Nat) (world : World T A M) :
    List (Occurrence A) :=
  match world.waiting.find? (·.serial == serial) with
  | none => []
  | some delayed =>
    if world.stopped.contains serial then [.dropped serial]
    else .entered serial :: chronicle bound (actions.perform delayed.action)
      (own (some serial) delayed.action) (some serial) delayed.action delayed.rules (world.taken serial)

end World

mutual
/-- What happens while a deed is done in the foreground. -/
def Deed.chronicle (bound : Nat) (actions : Actions T A M)
    (own : Option Nat → A → World T A M → List (Occurrence A)) :
    Deed A → World T A M → List (Occurrence A)
  | .evaluate chain action, world | .run chain action, world =>
    GuardedSteps.chronicle bound (actions.perform action) (own none action) none action
      (chain.map (·.rule)) world
  | .wake serial, world => world.wakeChronicle bound actions own serial
  | .cancel, _ => [.cancelled]
  | .sleep _, _ => []
  | .override millis block, world =>
    Deed.chronicleAll bound actions own block { world with defaultTimeout := millis }
  | .attempt block, world => Deed.chronicleAll bound actions own block world

def Deed.chronicleAll (bound : Nat) (actions : Actions T A M)
    (own : Option Nat → A → World T A M → List (Occurrence A)) :
    List (Deed A) → World T A M → List (Occurrence A)
  | [], _ => []
  | deed :: rest, world =>
    Deed.chronicle bound actions own deed world ++
      match Deed.perform bound actions deed world with
      | some (.ok (), after) => Deed.chronicleAll bound actions own rest after
      | _ => []
end

/-! ## Following a chronicle -/

/-- The first world becomes the second one by what happens in the foreground or in the run of a delayed
step, for each thing that can happen. -/
structure Follows (actions : Actions T A M) (own : Option Nat → A → World T A M → List (Occurrence A))
    (follows : Option Nat → World T A M → List (Occurrence A) → World T A M → Prop) : Prop where
  idle : ∀ thread world now timeout log,
    follows thread world [] { world with now := now, defaultTimeout := timeout, log := log }
  append : ∀ {thread first second third past later}, follows thread first past second →
    follows thread second later third → follows thread first (past ++ later) third
  started : ∀ thread world millis rules action,
    follows thread world [.started world.nextSerial] (world.delay millis rules action)
  cancelled : ∀ thread world, follows thread world [.cancelled] world.cancelPending
  dropped : ∀ {thread world serial}, serial ∈ world.waiting.map (·.serial) → serial ∈ world.stopped →
    follows thread world [.dropped serial] (world.taken serial)
  entered : ∀ {thread world serial past after}, serial ∈ world.waiting.map (·.serial) →
    serial ∉ world.stopped → follows (some serial) (world.taken serial) past after →
      follows thread world (.entered serial :: past) after
  called : ∀ {thread action world ended after}, actions.perform action world = some (ended, after) →
    follows thread world (.called thread action :: own thread action world) after

namespace Follows

variable {actions : Actions T A M} {own : Option Nat → A → World T A M → List (Occurrence A)}
  {follows : Option Nat → World T A M → List (Occurrence A) → World T A M → Prop}

omit [ClockTime T] in
theorem quiet (holds : Follows actions own follows) {thread : Option Nat} {world after : World T A M}
    {past : List (Occurrence A)} (inner : follows thread world past after) (now : T) (timeout : Int)
    (log : List LogEntry) :
    follows thread world past { after with now := now, defaultTimeout := timeout, log := log } := by
  have later := holds.append inner (holds.idle thread after now timeout log)
  rwa [List.append_nil] at later

omit [ClockTime T] in
theorem behind (holds : Follows actions own follows) {thread : Option Nat} {world after : World T A M}
    {past : List (Occurrence A)} (timeout : Int)
    (inner : follows thread { world with defaultTimeout := timeout } past after) :
    follows thread world past after :=
  holds.append (holds.idle thread world world.now timeout world.log) inner

/-! ## Runs -/

theorem attempts (holds : Follows actions own follows) {thread : Option Nat} {interval : Int}
    {deadline : T} {next : Polling.Choice T A M} (lawful : Polling.Lawful interval deadline next)
    {rest : Effect (World T A M) Result} {past : World T A M → List (Occurrence A)}
    (inner : ∀ world ended after, rest world = some (ended, after) →
      follows thread world (past world) after)
    {bound : Nat} {world after : World T A M} {ended : Except Failure Result}
    (ran : Polling.attempts (Polling.tried rest next) bound world = some (ended, after)) :
    follows thread world (Polling.attemptsHistory (Polling.tried rest next) past bound world) after := by
  induction bound generalizing world with
  | zero => cases ran
  | succ bound induction =>
      unfold Polling.attemptsHistory
      cases first : rest world with
      | none => simp [Polling.attempts_succ, Polling.tried, first] at ran
      | some found =>
          rcases found with ⟨value, reached⟩
          have made : Polling.tried rest next world = some (next value reached) := by
            simp [Polling.tried, first]
          have own := inner world value reached first
          have allowed := lawful.follows value reached
          rw [Polling.attempts_of_ran first] at ran
          rw [made]
          cases choice : next value reached with
          | ended last left =>
              rw [choice] at ran allowed
              cases ran
              rw [allowed.1]
              simpa using own
          | again later =>
              rw [choice] at ran allowed
              rcases allowed with ⟨_, span, _, rfl⟩
              exact holds.append (holds.quiet own _ _ _) (induction ran)

theorem repeated (holds : Follows actions own follows) {thread : Option Nat} {millis : Int}
    {next : (interval : Int) → (opened deadline : T) → Polling.Choice T A M}
    (lawful : ∀ interval opened deadline, Polling.Lawful interval deadline (next interval opened deadline))
    {rest : Effect (World T A M) Result} {past : World T A M → List (Occurrence A)}
    (inner : ∀ world ended after, rest world = some (ended, after) →
      follows thread world (past world) after)
    {bound : Nat} {world after : World T A M} {ended : Except Failure Result}
    (ran : Polling.repeated bound millis next rest world = some (ended, after)) :
    follows thread world (Polling.repeatedHistory bound millis next rest past world) after := by
  unfold Polling.repeated at ran
  unfold Polling.repeatedHistory
  cases measured : ClockTime.ofMillis (T := T) millis with
  | ok span =>
      rw [measured] at ran
      exact holds.attempts (lawful _ _ _) inner ran
  | error fault =>
      rw [measured] at ran
      cases ran
      exact holds.idle thread world _ _ _

theorem evaluate (holds : Follows actions own follows) (bound : Nat) (thread : Option Nat) (action : A)
    (rules : List Rule) (world : World T A M) (ended : Except Failure Result) (after : World T A M)
    (ran : GuardedSteps.evaluate bound (actions.perform action) action rules world = some (ended, after)) :
    follows thread world
      (chronicle bound (actions.perform action) (own thread action) thread action rules world) after := by
  induction rules generalizing world ended after with
  | nil =>
      rw [GuardedSteps.evaluate, Result.ofAction_eq] at ran
      rcases Option.map_eq_some_iff.mp ran with ⟨⟨value, reached⟩, called, same⟩
      cases same
      exact holds.called called
  | cons rule rest induction =>
      cases rule with
      | passthrough => exact induction world ended after ran
      | conditionalSkip condition =>
          rw [GuardedSteps.evaluate] at ran
          cases verdict : Condition.check world.bindings condition with
          | met =>
              simp only [chronicle, verdict] at ran ⊢
              exact induction world ended after ran
          | unmet clause =>
              simp only [chronicle, verdict] at ran ⊢
              cases ran
              exact holds.idle thread world _ _ _
          | failed failure =>
              simp only [chronicle, verdict] at ran ⊢
              cases ran
              exact holds.idle thread world _ _ _
      | invert =>
          rw [evaluate_invert] at ran
          rcases Option.map_eq_some_iff.mp ran with ⟨⟨value, reached⟩, inner, same⟩
          cases same
          exact holds.quiet (holds.behind _ (induction world.inverting value reached inner)) _ _ _
      | delay millis =>
          cases ran
          exact holds.started thread world millis rest action
      | within millis =>
          rw [evaluate_within] at ran
          exact holds.repeated (fun interval _ => Polling.lawful_untilNext millis interval) induction ran
      | during millis =>
          rw [evaluate_during] at ran
          exact holds.repeated (Polling.lawful_duringNext millis) induction ran
      | expect type =>
          rw [evaluate_expect] at ran
          rcases Option.map_eq_some_iff.mp ran with ⟨⟨value, reached⟩, inner, same⟩
          cases same
          exact induction world value after inner
      | unknown kind =>
          cases ran
          exact holds.idle thread world _ _ _

/-! ## Deeds -/

theorem exists_evaluate_of_runDelayed {bound : Nat} {delayed : Waiting T A} {world after : World T A M}
    {ended : Except Failure Unit}
    (ran : World.runDelayed bound actions delayed world = some (ended, after))
    (unstopped : ¬ world.stopped.contains delayed.serial = true) :
    ∃ value reached log, GuardedSteps.evaluate bound (actions.perform delayed.action) delayed.action
      delayed.rules (world.release delayed.serial) = some (value, reached) ∧
        after = { reached with log := log } := by
  unfold World.runDelayed at ran
  simp only [if_neg unstopped] at ran
  split at ran
  · cases ran
  · next failure reached inner =>
    cases ran
    exact ⟨_, reached, _, inner, rfl⟩
  · next result reached _ inner =>
    cases ran
    exact ⟨_, reached, _, inner, rfl⟩
  · next failure reached inner =>
    split at ran
    · cases ran
      exact ⟨_, reached, _, inner, rfl⟩
    · cases ran
      exact ⟨_, reached, _, inner, rfl⟩

theorem runDelayed (holds : Follows actions own follows) (bound : Nat) (thread : Option Nat)
    {delayed : Waiting T A} {world after : World T A M} {ended : Except Failure Unit}
    (found : world.waiting.find? (·.serial == delayed.serial) = some delayed)
    (ran : World.runDelayed bound actions delayed
      { world with waiting := world.waiting.filter (·.serial != delayed.serial) } = some (ended, after)) :
    follows thread world (world.wakeChronicle bound actions own delayed.serial) after := by
  have waits : delayed.serial ∈ world.waiting.map (·.serial) :=
    List.mem_map_of_mem (List.mem_of_find?_eq_some found)
  unfold World.wakeChronicle
  simp only [found]
  by_cases stopped : world.stopped.contains delayed.serial = true
  · rw [if_pos stopped]
    unfold World.runDelayed at ran
    simp only [if_pos stopped] at ran
    cases ran
    exact holds.quiet (holds.dropped waits (List.contains_iff_mem.mp stopped)) _ _ _
  · rw [if_neg stopped]
    rcases exists_evaluate_of_runDelayed ran stopped with ⟨value, reached, log, inner, rfl⟩
    have behind := holds.evaluate bound (some delayed.serial) delayed.action delayed.rules _ _ _ inner
    exact holds.quiet (holds.entered waits (mt List.contains_iff_mem.mpr stopped) behind) _ _ _

theorem wake (holds : Follows actions own follows) (bound : Nat) (thread : Option Nat) (serial : Nat)
    {world : World T A M} {ended : Except Failure Unit} {after : World T A M}
    (ran : World.wake bound actions serial world = some (ended, after)) :
    follows thread world (world.wakeChronicle bound actions own serial) after := by
  unfold World.wake at ran
  split at ran
  · next absent =>
    cases ran
    unfold World.wakeChronicle
    rw [absent]
    exact holds.idle thread world _ _ _
  · next delayed found =>
    have same : delayed.serial = serial := by simpa using List.find?_some found
    subst same
    rcases Option.map_eq_some_iff.mp ran with ⟨⟨value, reached⟩, inner, same⟩
    cases same
    exact holds.runDelayed bound thread found inner

mutual
/-- A deed follows its chronicle, in whatever way it ends. -/
theorem perform (holds : Follows actions own follows) (bound : Nat) :
    (deed : Deed A) → ∀ (world : World T A M) (ended : Except Failure Unit) (after : World T A M),
      Deed.perform bound actions deed world = some (ended, after) →
        follows none world (Deed.chronicle bound actions own deed world) after
  | .evaluate chain action, world, ended, after, ran => by
    rcases Effect.exists_of_andThen (fun _ => .done ()) ran with ⟨value, inner⟩
    exact holds.evaluate bound none action _ world value after inner
  | .run chain action, world, ended, after, ran => by
    rcases Effect.exists_of_andThen Result.leaves_settle ran with ⟨value, inner⟩
    exact holds.evaluate bound none action _ world value after inner
  | .wake serial, world, ended, after, ran => holds.wake bound none serial ran
  | .cancel, world, ended, after, ran => by
    cases ran
    exact holds.cancelled none world
  | .sleep millis, world, ended, after, ran => by
    rw [Deed.perform, World.sleepMillis] at ran
    rw [Deed.chronicle]
    split at ran
    · cases ran
      exact holds.idle none world _ _ _
    · cases ran
      exact holds.idle none world _ _ _
  | .override millis block, world, ended, after, ran => by
    rw [Deed.perform] at ran
    rcases Option.map_eq_some_iff.mp ran with ⟨⟨value, reached⟩, inner, same⟩
    cases same
    rw [Deed.chronicle]
    exact holds.quiet (holds.behind millis (performAll holds bound block _ _ _ inner)) _ _ _
  | .attempt block, world, ended, after, ran => by
    rw [Deed.perform] at ran
    rcases Option.map_eq_some_iff.mp ran with ⟨⟨value, reached⟩, inner, same⟩
    cases same
    rw [Deed.chronicle]
    exact performAll holds bound block _ _ _ inner

theorem performAll (holds : Follows actions own follows) (bound : Nat) :
    (deeds : List (Deed A)) → ∀ (world : World T A M) (ended : Except Failure Unit) (after : World T A M),
      Deed.performAll bound actions deeds world = some (ended, after) →
        follows none world (Deed.chronicleAll bound actions own deeds world) after
  | [], world, ended, after, ran => by
    rw [Deed.performAll] at ran
    rw [Deed.chronicleAll]
    cases ran
    exact holds.idle none world _ _ _
  | deed :: rest, world, ended, after, ran => by
    rw [Deed.performAll] at ran
    rw [Deed.chronicleAll]
    unfold Effect.andThen at ran
    split at ran
    · next reached first =>
      rw [first]
      exact holds.append (perform holds bound deed _ _ _ first) (performAll holds bound rest _ _ _ ran)
    · next failure reached first =>
      cases ran
      rw [first]
      exact holds.append (perform holds bound deed _ _ _ first) (holds.idle none after _ _ _)
    · cases ran
end

end Follows

/-! ## Watching the calls -/

/-- The actions note in their memory that they are called. -/
def Actions.Remember (actions : Actions T A M) (own : Option Nat → A → World T A M → List (Occurrence A))
    (seen : M → List A) : Prop :=
  ∀ thread action world ended after, actions.perform action world = some (ended, after) →
    seen after.memory = seen world.memory ++ action :: Occurrence.calls (own thread action world)

omit [ClockTime T] in
theorem Actions.Remember.follows {actions : Actions T A M}
    {own : Option Nat → A → World T A M → List (Occurrence A)} {seen : M → List A}
    (remember : actions.Remember own seen) :
    Follows actions own fun _ world past after =>
      seen after.memory = seen world.memory ++ Occurrence.calls past where
  idle _ _ _ _ _ := by simp [Occurrence.calls]
  append first second := by simp [second, first, Occurrence.calls]
  started _ _ _ _ _ := by simp [Occurrence.calls, World.delay]
  cancelled _ _ := by simp [Occurrence.calls, World.cancelPending]
  dropped _ _ := by simp [Occurrence.calls, World.taken, World.release]
  entered _ _ inner := by simpa [Occurrence.calls, World.taken, World.release] using inner
  called ran := by simpa [Occurrence.calls] using remember _ _ _ _ _ ran

theorem Actions.Remember.seen_performAll {actions : Actions T A M}
    {own : Option Nat → A → World T A M → List (Occurrence A)} {seen : M → List A}
    (remember : actions.Remember own seen) {bound : Nat} {deeds : List (Deed A)}
    {world after : World T A M} {ended : Except Failure Unit}
    (ran : Deed.performAll bound actions deeds world = some (ended, after)) :
    seen after.memory = seen world.memory ++
      Occurrence.calls (Deed.chronicleAll bound actions own deeds world) :=
  remember.follows.performAll bound deeds world ended after ran

end GuardedSteps
