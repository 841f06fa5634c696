import GuardedSteps.Proofs.Run.Skip
import GuardedSteps.Proofs.Run.Termination

/-!
What comes out of a chain. The caller of a chain sees a result, or the failure that is raised for it;
each of the two tells the other.
-/

namespace GuardedSteps

/-- What is raised for a result tells it apart from all others. -/
structure Reports (result : Result) (raised : Except Failure Unit) : Prop where
  returns : raised = .ok () ↔ result = .passed
  skips : (∃ failure, raised = .error failure ∧ failure.isSkip = true) ↔ result = .skipped
  raises : ∀ failure, raised = .error failure ∧ failure.isSkip = false ↔ result = .failed failure

namespace Result

def raised : Result → Except Failure Unit
  | .passed => .ok ()
  | .failed failure => .error failure
  | .skipped => .error .skipped

theorem settle_eq {σ : Type} (result : Result) (state : σ) :
    result.settle state = some (result.raised, state) := by
  cases result with
  | passed => rfl
  | failed failure => rfl
  | skipped => rfl

theorem reports_raised {result : Result} (proper : result.Proper) : Reports result result.raised := by
  cases result with
  | passed =>
      refine ⟨by simp [raised], ⟨?_, by simp⟩, fun failure => ⟨?_, by simp⟩⟩
      · rintro ⟨failure, same, -⟩
        cases same
      · rintro ⟨same, -⟩
        cases same
  | failed failure =>
      refine ⟨by simp [raised], ⟨?_, by simp⟩, fun other => ⟨?_, ?_⟩⟩
      · rintro ⟨other, same, skip⟩
        cases same
        rw [proper.2] at skip
        cases skip
      · rintro ⟨same, -⟩
        cases same
        rfl
      · intro same
        cases same
        exact ⟨rfl, proper.2⟩
  | skipped =>
      have signal : Failure.skipped.isSkip = true := by decide
      refine ⟨by simp [raised], ⟨fun _ => rfl, fun _ => ⟨_, rfl, signal⟩⟩, fun other => ⟨?_, by simp⟩⟩
      rintro ⟨same, skip⟩
      cases same
      rw [signal] at skip
      cases skip

end Result

variable {T A M : Type} [ClockTime T]

theorem Chain.run_eq {bound : Nat} {perform : Effect (World T A M) Unit} {action : A} {chain : Chain}
    {world after : World T A M} {result : Result}
    (ran : evaluate bound perform action (chain.map (·.rule)) world = some (.ok result, after)) :
    chain.run bound perform action world = some (result.raised, after) := by
  simp only [Chain.run, Effect.andThen, ran]
  exact result.settle_eq after

theorem Chain.Validated.known {chain : Chain} (validated : chain.Validated) :
    ∀ rule ∈ chain.map (·.rule), ∀ kind, rule ≠ .unknown kind := by
  intro rule member kind
  rcases List.mem_map.mp member with ⟨guard, inside, rfl⟩
  exact (validated guard inside).known kind

/-- Behind validated guards, an action that raises ordinary errors only never makes a run raise
anything: the run ends in a result, whose failure is an ordinary error and not the signal of a skipped
step, so that what the chain raises tells which result it was. With an action whose calls come to an
end, a run from a reading at which the polls of the chain come to an end does so. -/
theorem evaluate_settles (perform : Effect (World T A M) Unit) (action : A) (chain : Chain)
    (validated : chain.Validated) (ordinary : RaisesOrdinary perform) :
    (∀ bound world ended after,
      evaluate bound perform action (chain.map (·.rule)) world = some (ended, after) →
        ∃ result raised, ended = .ok result ∧ result.Proper ∧
          chain.run bound perform action world = some (raised, after) ∧ Reports result raised) ∧
    ∀ {K : Type} [Preorder K] {seconds : T → K}, Unhurried seconds perform →
      ∀ world, EndsPolls seconds (chain.map (·.rule)) world.now → 0 < world.settings.pollInterval →
        ∃ enough result after, ∀ bound, enough ≤ bound →
          evaluate bound perform action (chain.map (·.rule)) world = some (.ok result, after) := by
  have proper (bound : Nat) (world : World T A M) (ended : Except Failure Result)
      (after : World T A M)
      (ran : evaluate bound perform action (chain.map (·.rule)) world = some (ended, after)) :
      ∃ result, ended = .ok result ∧ result.Proper := by
    have ends := evaluate_endsProperly bound action ordinary validated.known world ended after ran
    cases ended with
    | ok result => exact ⟨result, rfl, ends⟩
    | error failure => exact ends.elim
  constructor
  · intro bound world ended after ran
    rcases proper bound world ended after ran with ⟨result, rfl, carried⟩
    exact ⟨result, result.raised, rfl, carried, Chain.run_eq ran, Result.reports_raised carried⟩
  · intro K _ seconds unhurried world ends paced
    rcases evaluate_finishes action unhurried (chain.map (·.rule)) world ends paced with
      ⟨enough, ended, after, -, finished⟩
    rcases proper enough world ended after (finished enough (Nat.le_refl enough)) with
      ⟨result, rfl, -⟩
    exact ⟨enough, result, after, finished⟩

theorem run_hesitant :
    (∃ failure after, Chain.run 5 hesitant () [⟨.within 50, {}⟩, Guard.always] startingWorld =
      some (.error failure, after) ∧ failure.isSkip = true) ∧
    ∃ enough result after, ∀ bound, enough ≤ bound →
      evaluate bound hesitant () [.within 50, .passthrough] startingWorld =
        some (.ok result, after) := by
  have validated : Chain.Validated [⟨.within 50, {}⟩, Guard.always] := by
    have first : Guard.Validated ⟨.within 50, {}⟩ := by
      refine ⟨by simp, ?_⟩
      rintro millis ⟨⟩
      decide
    exact List.forall_mem_cons.mpr ⟨first, List.forall_mem_singleton.mpr Guard.validated_always⟩
  have ordinary : RaisesOrdinary hesitant := by
    intro world failure after ran
    cases ran
    have signal : Failure.skipped.isOrdinary = true := by decide
    cases world.memory with
    | nil => decide
    | cons first rest => exact signal
  have unhurried : Unhurried (id : Int → Int) hesitant := by
    refine ⟨fun world => ⟨_, _, rfl⟩, ?_⟩
    intro world ended after ran paced
    cases ran
    exact ⟨Int.le_refl world.now, paced⟩
  have ends := ClockTime.steady_int.endsPolls [.within 50, .passthrough] startingWorld.now
  have settles := evaluate_settles hesitant () _ validated ordinary
  refine ⟨?_, settles.2 unhurried startingWorld ends (by decide)⟩
  rcases settles.1 5 startingWorld (.ok .skipped) _ rfl with ⟨result, raised, same, -, ran, reports⟩
  cases same
  rcases reports.skips.mpr rfl with ⟨failure, rfl, skip⟩
  exact ⟨failure, _, ran, skip⟩

end GuardedSteps
