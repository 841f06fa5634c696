import GuardedSteps.Proofs.Clock
import GuardedSteps.Proofs.Run.Conclusion

/-!
Skips. Whatever guards stand around it, the first skip is the last event of a run, and the run ends as
skipped.
-/

namespace GuardedSteps

variable {T A M : Type}

/-- In a run of these events, nothing happens after a skip, and the run ends as skipped. -/
def SkipEnds (perform : Effect (World T A M) Unit) (events : List (Event T A M))
    (ended : Option (Except Failure Result × World T A M)) : Prop :=
  ∀ before event later, events = before ++ event :: later → event.IsSkip perform →
    later = [] ∧ ∃ after, ended = some (.ok .skipped, after)

variable [ClockTime T]

/-- A skip is the last event of the history, and the result. -/
theorem skipEnds_history (bound : Nat) (perform : Effect (World T A M) Unit) (action : A)
    (rules : List Rule) (world : World T A M) :
    SkipEnds perform (history bound perform action rules world)
      (evaluate bound perform action rules world) := by
  apply concludes_history bound action .skipped
  · rintro start ⟨failure, after, raised, signal⟩
    exact ⟨after, by simp [Result.ofAction, raised, signal]⟩
  · intro condition start unmet
    exact ⟨rfl, unmet⟩
  · intro type member
    rfl

/-- Whatever guards enclose it and however many attempts came before, the action that raises the
signal of a skipped step, or the condition that is not met, is the last event of a run, and the run
ends as skipped. The calls and the unmet conditions among the events are those that can be seen of
the run. -/
theorem evaluate_of_skip (bound : Nat) (perform : Effect (World T A M) Unit) (action : A)
    (rules : List Rule) (world : World T A M) :
    (∀ before event later,
      history bound perform action rules world = before ++ event :: later →
      event.IsSkip perform →
        later = [] ∧
          ∃ after, evaluate bound perform action rules world = some (.ok .skipped, after)) ∧
    ∀ (K : Type) (seen : World T A M → List K) (mark : Event T A M → List K),
      Watches perform seen mark →
      ∀ ended after, evaluate bound perform action rules world = some (ended, after) →
        seen after = seen world ++ (history bound perform action rules world).flatMap mark := by
  constructor
  · exact skipEnds_history bound perform action rules world
  · intro K seen mark watches ended after ran
    exact seen_evaluate bound action watches rules world ended after ran

/-- An action that fails at first and skips its step when it is called again. It remembers the times
of its calls. -/
def hesitant : Effect (World Int Unit (List Int)) Unit := fun world =>
  let failure : Failure := if world.memory.isEmpty then .raised .assertionError none else .skipped
  some (.error failure, { world with memory := world.memory ++ [world.now] })

def startingWorld : World Int Unit (List Int) := .opening [] .standard []

def timeOfCall : Event Int Unit (List Int) → List Int
  | .called world => [world.now]
  | .checked _ _ => []

theorem evaluate_hesitant : ∃ after,
    evaluate 5 hesitant () [.expect .skipStep, .invert, .within 50] startingWorld =
      some (.ok .skipped, after) ∧ after.memory = [0, 10] := by
  have skip := evaluate_of_skip 5 hesitant () [.expect .skipStep, .invert, .within 50] startingWorld
  rcases skip.1 [.called { startingWorld with defaultTimeout := 200 }]
    (.called { startingWorld with defaultTimeout := 200, now := 10, memory := [0] }) [] rfl
    ⟨.skipped, _, rfl, by decide⟩ with ⟨-, after, ended⟩
  have watches : Watches hesitant World.memory timeOfCall := by
    constructor
    case called =>
      intro world value last called
      cases called
      rfl
    all_goals simp [timeOfCall, World.note, World.delay]
  exact ⟨after, ended, skip.2 Int World.memory timeOfCall watches _ after ended⟩

end GuardedSteps
