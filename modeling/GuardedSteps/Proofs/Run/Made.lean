import GuardedSteps.Proofs.Run.Ends
import GuardedSteps.Run.Delay

/-!
Where the failures of a run come from. Behind guards of known kinds, what a run raises is a signal that
its action raised, and the failure of a result is one of the action, one that a guard makes on its own,
or one that guards make out of such failures. A delayed step therefore never crashes.
-/

namespace GuardedSteps

def Effect.Raises {σ α : Type} (effect : Effect σ α) (failure : Failure) : Prop :=
  ∃ state left, effect state = some (.error failure, left)

namespace Failure

/-! ## Failures out of failures -/

/-- What guards of known kinds can make of the failures of an action. -/
inductive Made (source : Failure → Prop) : Failure → Prop
  | own {failure : Failure} (raised : source failure) : Made source failure
  | unexpectedPass : Made source .unexpectedPass
  | nothingThrown (expected : String) : Made source (.nothingThrown expected)
  | clock (fault : ClockFault) : Made source (.clock fault)
  | untold : Made source .untold
  | condition {failure : Failure} (unchecked : failure.Unchecked) : Made source failure
  | notFulfilled (millis : Int) {last : Failure} (made : Made source last) :
    Made source (.notFulfilled millis last)
  | brokenWindow (elapsed millis : Int) {cause : Failure} (made : Made source cause) :
    Made source (.brokenWindow elapsed millis cause)
  | otherThrown (expected : String) {cause : Failure} (made : Made source cause) :
    Made source (.otherThrown expected cause)

def origin : Failure → Failure
  | .notFulfilled _ last => last.origin
  | .brokenWindow _ _ cause | .otherThrown _ cause => cause.origin
  | failure => failure

theorem Made.exists_source {source : Failure → Prop} {failure : Failure} (made : failure.Made source)
    {kind : String} (unknown : failure.origin = .unknownKind kind) :
    ∃ own, source own ∧ own.origin = .unknownKind kind := by
  induction made with
  | own raised => exact ⟨_, raised, unknown⟩
  | unexpectedPass => cases unknown
  | nothingThrown expected => cases unknown
  | clock fault => cases unknown
  | untold => cases unknown
  | condition unchecked =>
      cases unchecked with
      | template fault => cases unknown
      | comparison fault => cases unknown
  | notFulfilled millis made induction => exact induction unknown
  | brokenWindow elapsed millis made induction => exact induction unknown
  | otherThrown expected made induction => exact induction unknown

end Failure

namespace Result

/-- A failed result carries an ordinary failure that guards have made; what is raised is a signal of the
action. -/
def EndsMade (source : Failure → Prop) : Except Failure Result → Prop
  | .ok .passed | .ok .skipped => True
  | .ok (.failed failure) => failure.isOrdinary = true ∧ failure.Made source
  | .error failure => failure.isOrdinary = false ∧ source failure

variable {source : Failure → Prop}

theorem EndsMade.made_of_carries {ended : Except Failure Result} {failure : Failure}
    (ends : EndsMade source ended) (carries : Carries ended failure) : failure.Made source := by
  cases carries with
  | failed => exact ends.2
  | raised => exact .own ends.2

theorem endsMade_surfaced {failure : Failure} (raised : source failure) :
    EndsMade source (Polling.surfaced failure) := by
  unfold Polling.surfaced
  split
  · next ordinary => exact ⟨ordinary, .own raised⟩
  · next signal => exact ⟨by simpa using signal, raised⟩

theorem closed_endsMade : Closed (EndsMade source) where
  passed := trivial
  skipped := trivial
  unexpectedPass := ⟨Failure.proper_unexpectedPass.1, .unexpectedPass⟩
  nothingThrown expected := ⟨(Failure.proper_nothingThrown expected).1, .nothingThrown expected⟩
  clock fault := ⟨(Failure.proper_clock fault).1, .clock fault⟩
  untold := ⟨Failure.proper_untold.1, .untold⟩
  condition _ _ _ verdict :=
    ⟨(Condition.proper_of_check verdict).1, .condition (Condition.unchecked_of_checkClauses verdict)⟩
  surfaced ended failure carries ends := by
    cases carries with
    | failed =>
        have ordinary := ends.1
        simp only [Polling.surfaced, ordinary, if_true]
        exact ends
    | raised => exact endsMade_surfaced ends.2
  notFulfilled _ failure millis carries ends _ :=
    ⟨(Failure.proper_notFulfilled millis failure).1, .notFulfilled millis (ends.made_of_carries carries)⟩
  brokenWindow _ failure elapsed millis carries ends _ :=
    ⟨(Failure.proper_brokenWindow elapsed millis failure).1,
      .brokenWindow elapsed millis (ends.made_of_carries carries)⟩
  otherThrown _ failure expected carries ends _ :=
    ⟨(Failure.proper_otherThrown expected failure).1,
      .otherThrown expected (ends.made_of_carries carries)⟩

end Result

variable {T A M : Type} [ClockTime T]

/-! ## Runs -/

/-- Behind guards of known kinds a run ends in what the guards make of the failures of its action. -/
theorem evaluate_endsMade (bound : Nat) (perform : Effect (World T A M) Unit) (action : A)
    {rules : List Rule} (known : ∀ rule ∈ rules, ∀ kind, rule ≠ .unknown kind) {world after : World T A M}
    {ended : Except Failure Result}
    (ran : evaluate bound perform action rules world = some (ended, after)) :
    Result.EndsMade perform.Raises ended := by
  refine Result.closed_endsMade.evaluate bound action ?_
    (fun kind member => absurd rfl (known _ member kind)) world ended after ran
  intro start value left called
  cases value with
  | ok => trivial
  | error failure =>
      simp only [Result.returned]
      split
      · trivial
      · exact Result.endsMade_surfaced ⟨start, left, called⟩

/-- A delayed step has run without a crash: what it raises is a signal of its action, and it takes no
note of an ordinary error that was raised. -/
structure World.Uncrashed (bound : Nat) (actions : Actions T A M) (delayed : Waiting T A)
    (world : World T A M) (ended : Except Failure Unit) (after : World T A M) : Prop where
  raised : ∀ failure, ended = .error failure →
    failure.isOrdinary = false ∧ (actions.perform delayed.action).Raises failure
  noted : ∃ notes reached, after.log = notes ++ reached.log ∧ (∀ label, .crashed label ∉ notes) ∧
    (reached = world.release delayed.serial ∨
      ∃ value, evaluate bound (actions.perform delayed.action) delayed.action delayed.rules
        (world.release delayed.serial) = some (value, reached))

theorem World.uncrashed_of_runDelayed {bound : Nat} {actions : Actions T A M} {delayed : Waiting T A}
    (known : ∀ rule ∈ delayed.rules, ∀ kind, rule ≠ .unknown kind) {world after : World T A M}
    {ended : Except Failure Unit} (ran : runDelayed bound actions delayed world = some (ended, after)) :
    Uncrashed bound actions delayed world ended after := by
  unfold runDelayed at ran
  dsimp only at ran
  split at ran
  · cases ran
    exact ⟨nofun, [.ran _, .cancelled _], _, rfl, by simp, .inl rfl⟩
  · split at ran
    · cases ran
    · next failure reached inner =>
      cases ran
      exact ⟨nofun, [.ran _, .failed _], reached, rfl, by simp, .inr ⟨_, inner⟩⟩
    · next result reached _ inner =>
      cases ran
      exact ⟨nofun, [.ran _], reached, rfl, by simp, .inr ⟨_, inner⟩⟩
    · next failure reached inner =>
      have made := evaluate_endsMade bound _ delayed.action known inner
      rw [made.1] at ran
      cases ran
      refine ⟨?_, [.ran _], reached, rfl, by simp, .inr ⟨_, inner⟩⟩
      rintro _ ⟨⟩
      exact made

end GuardedSteps
