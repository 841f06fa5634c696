import GuardedSteps.Proofs.Run.Settling

/-!
Runs that come to an end. Every further attempt of a poll is made after a pause before its deadline, so
that a poll ends if only so many pauses fit. From some number of attempts on, which is allowed to each
loop, the end of a run no longer depends on that number.
-/

namespace GuardedSteps

variable {T A M K : Type} [ClockTime T] [Preorder K]

/-- On a clock that shows a reading, the polls of a chain come to an end one inside the other. -/
def EndsPolls (seconds : T → K) : List Rule → T → Prop
  | [], _ => True
  | .within millis :: rest, opened | .during millis :: rest, opened =>
    ∀ span, ClockTime.ofMillis millis = .ok span →
      ClockTime.Expires seconds (ClockTime.later opened span) (EndsPolls seconds rest) opened
  | _ :: rest, opened => EndsPolls seconds rest opened

theorem ClockTime.Steady.endsPolls {seconds : T → K} (steady : Steady seconds) (rules : List Rule)
    (opened : T) : EndsPolls seconds rules opened := by
  induction rules generalizing opened with
  | nil => trivial
  | cons rule rest induction =>
      cases rule with
      | within millis => exact fun span _ => steady.expires _ induction opened
      | during millis => exact fun span _ => steady.expires _ induction opened
      | passthrough => exact induction opened
      | conditionalSkip condition => exact induction opened
      | invert => exact induction opened
      | delay millis => exact induction opened
      | expect type => exact induction opened
      | unknown kind => exact induction opened

def Onward (seconds : T → K) (world after : World T A M) : Prop :=
  seconds world.now ≤ seconds after.now ∧ 0 < after.settings.pollInterval

/-- An action whose calls come to an end and do not tamper with time. -/
structure Unhurried (seconds : T → K) (perform : Effect (World T A M) Unit) : Prop where
  ends : ∀ world, ∃ ended after, perform world = some (ended, after)
  onward : ∀ world ended after, perform world = some (ended, after) →
    0 < world.settings.pollInterval → Onward seconds world after

/-- With enough attempts, a run has an end that does not depend on their number. -/
def Finishes (seconds : T → K) (run : (bound : Nat) → Effect (World T A M) Result)
    (world : World T A M) : Prop :=
  ∃ enough ended after, Onward seconds world after ∧
    ∀ bound, enough ≤ bound → run bound world = some (ended, after)

section

variable {seconds : T → K}

omit [ClockTime T] in
theorem Onward.refl {world : World T A M} (paced : 0 < world.settings.pollInterval) :
    Onward seconds world world :=
  ⟨le_rfl, paced⟩

omit [ClockTime T] in
theorem Onward.trans {first second third : World T A M} (before : Onward seconds first second)
    (behind : Onward seconds second third) : Onward seconds first third :=
  ⟨before.1.trans behind.1, behind.2⟩

omit [ClockTime T] in
theorem Onward.finishes {run : (bound : Nat) → Effect (World T A M) Result} {world after : World T A M}
    (onward : Onward seconds world after) (ended : Except Failure Result)
    (same : ∀ bound, run bound world = some (ended, after)) : Finishes seconds run world :=
  ⟨0, ended, after, onward, fun bound _ => same bound⟩

omit [ClockTime T] in
theorem Finishes.map {run inner : (bound : Nat) → Effect (World T A M) Result}
    {world start : World T A M}
    {change : Except Failure Result × World T A M → Except Failure Result × World T A M}
    (finishes : Finishes seconds inner start)
    (same : ∀ bound, run bound world = (inner bound start).map change)
    (kept : ∀ ended after, Onward seconds start after → Onward seconds world (change (ended, after)).2) :
    Finishes seconds run world := by
  rcases finishes with ⟨enough, ended, after, onward, finished⟩
  refine ⟨enough, (change (ended, after)).1, (change (ended, after)).2, kept ended after onward, ?_⟩
  intro bound large
  rw [same, finished bound large]
  rfl

/-! ## Attempts before a deadline -/

theorem pause_of_paused {interval : Int} (positive : 0 < interval) {deadline : T}
    {before after : World T A M} (paused : Polling.Paused interval deadline before after) :
    ClockTime.Pause deadline before.now after.now := by
  rcases paused with ⟨unreached, span, measured, rfl⟩
  exact ⟨unreached, _, span, positive, measured, rfl⟩

/-- A row of attempts ends, by induction on the pauses that fit before its deadline. -/
theorem finishes_attempts {interval : Int} (positive : 0 < interval) {deadline : T}
    {next : Polling.Choice T A M} (lawful : Polling.Lawful interval deadline next)
    {rest : (bound : Nat) → Effect (World T A M) Result} {starts : T → Prop}
    (inner : ∀ world, starts world.now → 0 < world.settings.pollInterval → Finishes seconds rest world)
    {opened : T} (expires : ClockTime.Expires seconds deadline starts opened) {world : World T A M}
    (opens : world.now = opened) (paced : 0 < world.settings.pollInterval) :
    ∃ enough ended after, Onward seconds world after ∧ ∀ count bound, enough ≤ count → enough ≤ bound →
      Polling.attempts (Polling.tried (rest bound) next) count world = some (ended, after) := by
  induction expires generalizing world with
  | intro here forward _ induction =>
      subst opens
      rcases inner world here paced with ⟨enough, ended, reached, onward, ran⟩
      have follows := lawful.follows ended reached
      cases choice : next ended reached with
      | ended value after =>
          rw [choice] at follows
          rcases follows with ⟨rfl, -⟩
          refine ⟨enough + 1, value, after, onward, ?_⟩
          intro count bound more large
          cases count with
          | zero => omega
          | succ count =>
              rw [Polling.attempts_of_ran (ran bound (by omega)), choice]
              rfl
      | again later =>
          rw [choice] at follows
          have pause := pause_of_paused positive follows
          have still : 0 < later.settings.pollInterval := by
            rcases follows with ⟨-, span, -, rfl⟩
            exact onward.2
          have further : Onward seconds world later :=
            ⟨onward.1.trans (forward reached.now later.now onward.1 pause), still⟩
          rcases induction reached.now later.now onward.1 pause rfl still with
            ⟨least, value, after, behind, finished⟩
          refine ⟨enough + least + 1, value, after, further.trans behind, ?_⟩
          intro count bound more large
          cases count with
          | zero => omega
          | succ count =>
              rw [Polling.attempts_of_ran (ran bound (by omega)), choice]
              exact finished count bound (by omega) (by omega)

theorem finishes_repeated (millis : Int)
    {next : (interval : Int) → (opened deadline : T) → Polling.Choice T A M}
    (lawful : ∀ interval opened deadline, Polling.Lawful interval deadline (next interval opened deadline))
    {rest : (bound : Nat) → Effect (World T A M) Result} {starts : T → Prop}
    (inner : ∀ world, starts world.now → 0 < world.settings.pollInterval → Finishes seconds rest world)
    (world : World T A M) (expires : ∀ span, ClockTime.ofMillis millis = .ok span →
      ClockTime.Expires seconds (ClockTime.later world.now span) starts world.now)
    (paced : 0 < world.settings.pollInterval) :
    Finishes seconds (fun bound => Polling.repeated bound millis next (rest bound)) world := by
  cases measured : ClockTime.ofMillis (T := T) millis with
  | ok span =>
      have own := lawful world.settings.pollInterval world.now (ClockTime.later world.now span)
      rcases finishes_attempts paced own inner (expires span measured) rfl paced with
        ⟨enough, ended, after, onward, finished⟩
      refine ⟨enough, ended, after, onward, fun bound large => ?_⟩
      simp only [Polling.repeated, measured]
      exact finished bound bound large large
  | error fault =>
      exact (Onward.refl paced).finishes (.ok (.failed (.clock fault))) fun bound => by
        simp only [Polling.repeated, measured]

/-! ## Whole runs -/

/-- A run ends when the rest behind some of its guards does, wherever the rest starts. -/
theorem finishes_evaluate_append (perform : Effect (World T A M) Unit) (action : A) (outer : List Rule)
    {rest : List Rule}
    (inner : ∀ world, 0 < world.settings.pollInterval →
      Finishes seconds (fun bound => evaluate bound perform action rest) world)
    (world : World T A M) (ends : EndsPolls seconds outer world.now)
    (paced : 0 < world.settings.pollInterval) :
    Finishes seconds (fun bound => evaluate bound perform action (outer ++ rest)) world := by
  induction outer generalizing world with
  | nil => exact inner world paced
  | cons rule outer induction =>
      simp only [List.cons_append]
      cases rule with
      | passthrough => exact induction world ends paced
      | conditionalSkip condition =>
          cases verdict : Condition.check world.bindings condition with
          | met =>
              rcases induction world ends paced with ⟨enough, ended, after, onward, finished⟩
              refine ⟨enough, ended, after, onward, fun bound large => ?_⟩
              simp only [evaluate, verdict]
              exact finished bound large
          | unmet clause =>
              have noted : Onward seconds world (world.note (.unmet clause)) := Onward.refl paced
              exact noted.finishes (.ok .skipped) fun bound => by simp only [evaluate, verdict]
          | failed failure =>
              exact (Onward.refl paced).finishes (.ok (.failed failure)) fun bound => by
                simp only [evaluate, verdict]
      | invert =>
          apply (induction world.inverting ends paced).map fun bound => evaluate_invert ..
          exact fun _ _ onward => onward
      | delay millis =>
          have delayed : Onward seconds world (world.delay millis (outer ++ rest) action) :=
            Onward.refl paced
          exact delayed.finishes (.ok .passed) fun _ => rfl
      | within millis =>
          have finished := finishes_repeated millis
            (fun interval _ => Polling.lawful_untilNext millis interval) induction world ends paced
          simpa only [evaluate_within] using finished
      | during millis =>
          have finished := finishes_repeated millis (Polling.lawful_duringNext millis) induction world
            ends paced
          simpa only [evaluate_during] using finished
      | expect type =>
          apply (induction world ends paced).map fun bound =>
            evaluate_expect bound perform action type (outer ++ rest) world
          exact fun _ _ onward => onward
      | unknown kind => exact (Onward.refl paced).finishes (.error (.unknownKind kind)) fun _ => rfl

theorem evaluate_finishes {perform : Effect (World T A M) Unit} (action : A)
    (unhurried : Unhurried seconds perform) (rules : List Rule) (world : World T A M)
    (ends : EndsPolls seconds rules world.now) (paced : 0 < world.settings.pollInterval) :
    Finishes seconds (fun bound => evaluate bound perform action rules) world := by
  have called (start : World T A M) (pacedStart : 0 < start.settings.pollInterval) :
      Finishes seconds (fun bound => evaluate bound perform action []) start := by
    rcases unhurried.ends start with ⟨ended, after, ran⟩
    apply (unhurried.onward start ended after ran pacedStart).finishes (Result.returned ended)
    intro bound
    rw [evaluate.eq_1, Result.ofAction_eq, ran]
    rfl
  have finished := finishes_evaluate_append perform action rules called world ends paced
  simpa only [List.append_nil] using finished

end

end GuardedSteps
