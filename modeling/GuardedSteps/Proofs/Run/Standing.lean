import GuardedSteps.Proofs.Run.History
import GuardedSteps.Run.Delay

/-!
What stands during a run. Behind its guards a step lets time pass, takes notes and registers delays,
and an inversion puts the default timeout back when the rest of the step has ended. Whatever else is
read of a world is after the run what it was before, if the action leaves it as it is. The default
timeout that an action sees is that of the world in which the run began, or the one of an inversion.
-/

namespace GuardedSteps

/-! ## Effects that leave something as it is -/

/-- However the effect ends, what is read of the state is as it was. -/
def Effect.Leaves {σ α K : Type} (effect : Effect σ α) (read : σ → K) : Prop :=
  ∀ state ended after, effect state = some (ended, after) → read after = read state

namespace Effect.Leaves

variable {σ α β K : Type} {read : σ → K}

theorem done (value : α) : (Effect.done value : Effect σ α).Leaves read := by
  intro state ended after ran
  cases ran
  rfl

theorem raise (failure : Failure) : (Effect.raise failure : Effect σ α).Leaves read := by
  intro state ended after ran
  cases ran
  rfl

theorem andThen {first : Effect σ α} {next : α → Effect σ β} (leaves : first.Leaves read)
    (leavesNext : ∀ value, (next value).Leaves read) : (first.andThen next).Leaves read := by
  intro state ended after ran
  unfold Effect.andThen at ran
  cases begun : first state with
  | none =>
      rw [begun] at ran
      cases ran
  | some found =>
      rcases found with ⟨value, middle⟩
      have kept := leaves state value middle begun
      rw [begun] at ran
      cases value with
      | ok value => exact (leavesNext value middle ended after ran).trans kept
      | error failure =>
          cases ran
          exact kept

theorem left {effect : Effect σ α} (leaves : effect.Leaves read) {state after : σ}
    (left : (effect state).map (·.2) = some after) : read after = read state := by
  rcases Option.map_eq_some_iff.mp left with ⟨⟨ended, reached⟩, ran, rfl⟩
  exact leaves state ended reached ran

end Effect.Leaves

theorem Result.leaves_settle {σ K : Type} {read : σ → K} (result : Result) :
    (result.settle : Effect σ Unit).Leaves read := by
  cases result with
  | passed => exact .done ()
  | failed failure => exact .raise failure
  | skipped => exact .raise .skipped

variable {T A M K : Type}

/-- What is read of a world has no part in time, notes and delays, and is not lost when the default
timeout is replaced for a while. -/
structure World.Standing (read : World T A M → K) : Prop where
  idle : ∀ world now pending stopped waiting serial log,
    read { world with
      now := now, pending := pending, stopped := stopped, waiting := waiting, nextSerial := serial,
      log := log } = read world
  restored : ∀ (world after : World T A M) (timeout : Int),
    read after = read { world with defaultTimeout := timeout } →
      read { after with defaultTimeout := world.defaultTimeout } = read world

theorem World.standing_defaultTimeout :
    Standing (World.defaultTimeout : World T A M → Int) where
  idle _ _ _ _ _ _ _ := rfl
  restored _ _ _ _ := rfl

theorem World.standing_settings : Standing (World.settings : World T A M → Settings) where
  idle _ _ _ _ _ _ _ := rfl
  restored _ _ _ kept := kept

theorem Result.leaves_ofAction {read : World T A M → K} {perform : Effect (World T A M) Unit}
    (leaves : perform.Leaves read) : (Result.ofAction perform).Leaves read := by
  intro world ended after ran
  rw [Result.ofAction_eq] at ran
  rcases Option.map_eq_some_iff.mp ran with ⟨⟨value, reached⟩, called, same⟩
  cases same
  exact leaves world value after called

variable [ClockTime T]

/-! ## Rows of attempts -/

namespace Polling

def Next.state {σ α : Type} : Next σ α → σ
  | .again state | .ended _ state => state

variable {read : World T A M → K} {rest : Effect (World T A M) Result}

theorem read_tried (standing : World.Standing read) {interval : Int} {deadline : T}
    {next : Choice T A M} (lawful : Lawful interval deadline next) (leaves : rest.Leaves read) {world : World T A M}
    {choice : Next (World T A M) Result} (made : tried rest next world = some choice) :
    read choice.state = read world := by
  rcases Option.map_eq_some_iff.mp made with ⟨⟨ended, after⟩, ran, chosen⟩
  have kept := leaves world ended after ran
  have follows := lawful.follows ended after
  simp only at chosen
  rw [chosen] at follows
  cases choice with
  | ended value last => exact follows.1 ▸ kept
  | again later =>
      rcases follows with ⟨-, -, -, rfl⟩
      exact (standing.idle after _ _ _ _ _ _).trans kept

theorem leaves_attempts (standing : World.Standing read) {interval : Int} {deadline : T}
    {next : Choice T A M} (lawful : Lawful interval deadline next) (leaves : rest.Leaves read) (bound : Nat) :
    (attempts (tried rest next) bound).Leaves read := by
  intro world ended after ran
  induction bound generalizing world with
  | zero => cases ran
  | succ bound induction =>
      rw [attempts_succ] at ran
      rcases Option.bind_eq_some_iff.mp ran with ⟨choice, made, followed⟩
      have kept := read_tried standing lawful leaves made
      cases choice with
      | again later => exact (induction later followed).trans kept
      | ended value last =>
          cases followed
          exact kept

theorem leaves_repeated (standing : World.Standing read) {millis : Int}
    {next : (interval : Int) → (opened deadline : T) → Choice T A M}
    (lawful : ∀ interval opened deadline, Lawful interval deadline (next interval opened deadline))
    (leaves : rest.Leaves read) (bound : Nat) : (repeated bound millis next rest).Leaves read := by
  intro world ended after ran
  unfold repeated at ran
  split at ran
  · exact leaves_attempts standing (lawful _ _ _) leaves bound world ended after ran
  · cases ran
    rfl

/-- An event of a row of attempts is one of an attempt that starts where nothing has changed of what
the rest of the chain leaves as it is. -/
theorem exists_start_attempts {interval : Int} {deadline : T} {next : Choice T A M}
    (lawful : Lawful interval deadline next)
    {ε : Type} {past : World T A M → List ε} {event : ε} {bound : Nat} {world : World T A M}
    (member : event ∈ attemptsHistory (tried rest next) past bound world) :
    ∃ start, event ∈ past start ∧ ∀ (K : Type) (read : World T A M → K),
      World.Standing read → rest.Leaves read → read start = read world := by
  induction bound generalizing world with
  | zero => cases member
  | succ bound induction =>
      unfold attemptsHistory at member
      rcases List.mem_append.mp member with own | later
      · exact ⟨world, own, fun _ _ _ _ => rfl⟩
      · split at later
        · next reached made =>
          rcases induction later with ⟨start, found, kept⟩
          refine ⟨start, found, fun K read standing leaves => ?_⟩
          exact (kept K read standing leaves).trans (read_tried standing lawful leaves made)
        · cases later

theorem exists_start_repeated {millis : Int}
    {next : (interval : Int) → (opened deadline : T) → Choice T A M}
    (lawful : ∀ interval opened deadline, Lawful interval deadline (next interval opened deadline))
    {bound : Nat}
    {past : World T A M → List (Event T A M)} {event : Event T A M} {world : World T A M}
    (member : event ∈ repeatedHistory bound millis next rest past world) :
    ∃ start, event ∈ past start ∧ ∀ (K : Type) (read : World T A M → K),
      World.Standing read → rest.Leaves read → read start = read world := by
  unfold repeatedHistory at member
  split at member
  · exact exists_start_attempts (lawful _ _ _) member
  · cases member

end Polling

/-! ## Runs -/

/-- What stands during waiting and replacing the timeout, and what the rest of a chain leaves as it is,
is as it was when a run of the whole chain has ended. -/
theorem leaves_evaluate_append {read : World T A M → K} (standing : World.Standing read) (bound : Nat)
    {perform : Effect (World T A M) Unit} (action : A) (outer : List Rule) {rest : List Rule}
    (leaves : (evaluate bound perform action rest).Leaves read) :
    (evaluate bound perform action (outer ++ rest)).Leaves read := by
  induction outer with
  | nil => exact leaves
  | cons rule outer induction =>
      intro world ended after ran
      rw [List.cons_append] at ran
      cases rule with
      | passthrough => exact induction world ended after ran
      | conditionalSkip condition =>
          rw [evaluate] at ran
          cases verdict : Condition.check world.bindings condition with
          | met =>
              simp only [verdict] at ran
              exact induction world ended after ran
          | unmet clause =>
              simp only [verdict] at ran
              cases ran
              exact standing.idle world _ _ _ _ _ _
          | failed failure =>
              simp only [verdict] at ran
              cases ran
              rfl
      | invert =>
          rw [evaluate_invert] at ran
          rcases Option.map_eq_some_iff.mp ran with ⟨⟨value, reached⟩, inner, same⟩
          cases same
          exact standing.restored world reached _ (induction world.inverting value reached inner)
      | delay millis =>
          cases ran
          exact standing.idle world _ _ _ _ _ _
      | within millis =>
          rw [evaluate_within] at ran
          exact Polling.leaves_repeated standing (fun interval _ => Polling.lawful_untilNext millis interval)
            induction bound world ended after ran
      | during millis =>
          rw [evaluate_during] at ran
          exact Polling.leaves_repeated standing (Polling.lawful_duringNext millis) induction bound
            world ended after ran
      | expect type =>
          rw [evaluate_expect] at ran
          rcases Option.map_eq_some_iff.mp ran with ⟨⟨value, reached⟩, inner, same⟩
          cases same
          exact induction world value after inner
      | unknown kind =>
          cases ran
          rfl

theorem leaves_evaluate {read : World T A M → K} (standing : World.Standing read) (bound : Nat)
    {perform : Effect (World T A M) Unit} (leaves : perform.Leaves read) (action : A)
    (rules : List Rule) : (evaluate bound perform action rules).Leaves read := by
  have called : (evaluate bound perform action []).Leaves read := Result.leaves_ofAction leaves
  have behind := leaves_evaluate_append standing bound action rules called
  rwa [List.append_nil] at behind

theorem leaves_defaultTimeout_of_invert (bound : Nat) (perform : Effect (World T A M) Unit) (action : A)
    {rules : List Rule} (inverts : .invert ∈ rules) :
    (evaluate bound perform action rules).Leaves World.defaultTimeout := by
  rcases List.append_of_mem inverts with ⟨outer, rest, rfl⟩
  apply leaves_evaluate_append World.standing_defaultTimeout
  intro world ended after ran
  rw [evaluate_invert] at ran
  rcases Option.map_eq_some_iff.mp ran with ⟨⟨value, reached⟩, inner, same⟩
  cases same
  rfl

theorem Chain.leaves_run {read : World T A M → K} (standing : World.Standing read) (bound : Nat)
    {perform : Effect (World T A M) Unit} (leaves : perform.Leaves read) (action : A)
    (chain : Chain) : (Chain.run bound perform action chain).Leaves read :=
  (leaves_evaluate standing bound leaves action _).andThen fun result => result.leaves_settle

/-! ## Blocks and delays -/

section

variable {read : World T A M → K} (standing : World.Standing read)

include standing

theorem World.leaves_sleepMillis (millis : Int) :
    (sleepMillis millis : Effect (World T A M) Unit).Leaves read := by
  intro world ended after ran
  unfold sleepMillis at ran
  split at ran
  · cases ran
    exact standing.idle world _ _ _ _ _ _
  · cases ran
    rfl

omit [ClockTime T] in
theorem World.leaves_cancelPending :
    (Effect.change World.cancelPending : Effect (World T A M) Unit).Leaves read := by
  intro world ended after ran
  cases ran
  exact standing.idle world _ _ _ _ _ _

omit [ClockTime T] in
theorem World.leaves_withTimeout {α : Type} (millis : Int) {rest : Effect (World T A M) α}
    (leaves : rest.Leaves read) : (withTimeout millis rest).Leaves read := by
  intro world ended after ran
  rcases Option.map_eq_some_iff.mp ran with ⟨⟨value, reached⟩, inner, same⟩
  cases same
  exact standing.restored world reached millis (leaves _ _ _ inner)

variable (bound : Nat) {actions : Actions T A M}
  (leaves : ∀ action, (actions.perform action).Leaves read)

include leaves

theorem World.leaves_runDelayed (delayed : Waiting T A) :
    (runDelayed bound actions delayed).Leaves read := by
  intro world ended after ran
  have released : read (world.release delayed.serial) = read world :=
    standing.idle world _ _ _ _ _ _
  have noted (other : World T A M) (entry : LogEntry) : read (other.note entry) = read other :=
    standing.idle other _ _ _ _ _ _
  unfold runDelayed at ran
  simp only at ran
  split at ran
  · cases ran
    rw [noted, noted, released]
  · have evaluated := leaves_evaluate standing bound (leaves delayed.action) delayed.action delayed.rules
    split at ran
    · cases ran
    · next failure reached inner =>
      cases ran
      rw [noted, noted, evaluated _ _ _ inner, released]
    · next result reached _ inner =>
      cases ran
      rw [noted, evaluated _ _ _ inner, released]
    · next failure reached inner =>
      split at ran
      · cases ran
        rw [noted, noted, evaluated _ _ _ inner, released]
      · cases ran
        rw [noted, evaluated _ _ _ inner, released]

end

end GuardedSteps
