import GuardedSteps.Proofs.Run.History

/-!
What a run depends on. Of an action nothing counts but what it does in the calls of the history: with
another action that does the same in these worlds, the run is the same.
-/

namespace GuardedSteps

variable {T A M : Type}

/-- Two actions do the same in the event, if it is a call. -/
def Event.Agrees (perform other : Effect (World T A M) Unit) : Event T A M → Prop
  | called world => perform world = other world
  | checked _ _ => True

/-! ## Rows of attempts -/

theorem Polling.attempts_congr {rest other : Effect (World T A M) Result}
    {past : World T A M → List (Event T A M)} {sort : Event T A M → Prop}
    (same : ∀ world, (∀ event ∈ past world, sort event) → rest world = other world)
    (next : Choice T A M) {bound : Nat} {world : World T A M}
    (events : ∀ event ∈ attemptsHistory (tried rest next) past bound world, sort event) :
    attempts (tried rest next) bound world = attempts (tried other next) bound world := by
  induction bound generalizing world with
  | zero => rfl
  | succ bound induction =>
      unfold attemptsHistory at events
      have own := same world fun event member => events event (List.mem_append_left _ member)
      have made : tried other next world = tried rest next world := by
        unfold tried
        rw [own]
      rw [attempts_succ, attempts_succ, made]
      cases attempt : tried rest next world with
      | none => rfl
      | some choice =>
          rw [attempt] at events
          cases choice with
          | ended value after => rfl
          | again later => exact induction fun event member => events event (List.mem_append_right _ member)

variable [ClockTime T]

theorem Polling.repeated_congr {rest other : Effect (World T A M) Result}
    {past : World T A M → List (Event T A M)} {sort : Event T A M → Prop}
    (same : ∀ world, (∀ event ∈ past world, sort event) → rest world = other world)
    {next : (interval : Int) → (opened deadline : T) → Choice T A M} {bound : Nat} {millis : Int}
    {world : World T A M}
    (events : ∀ event ∈ repeatedHistory bound millis next rest past world, sort event) :
    repeated bound millis next rest world = repeated bound millis next other world := by
  unfold repeatedHistory at events
  unfold repeated
  cases measured : ClockTime.ofMillis (T := T) millis with
  | ok span =>
      rw [measured] at events
      exact attempts_congr same _ events
  | error fault => rfl

/-! ## Runs -/

/-- Behind the same guards, actions that do the same in all calls of the history run in the same way. -/
theorem evaluate_congr (bound : Nat) {perform other : Effect (World T A M) Unit} (action : A)
    {rules : List Rule} {world : World T A M}
    (agree : ∀ event ∈ history bound perform action rules world, event.Agrees perform other) :
    evaluate bound perform action rules world = evaluate bound other action rules world := by
  induction rules generalizing world with
  | nil =>
      have same : perform world = other world := agree (.called world) List.mem_cons_self
      rw [evaluate, evaluate, Result.ofAction_eq, Result.ofAction_eq, same]
  | cons rule rest induction =>
      cases rule with
      | passthrough => exact induction agree
      | conditionalSkip condition =>
          simp only [evaluate]
          cases verdict : Condition.check world.bindings condition with
          | met =>
              simp only [history, verdict] at agree
              exact induction fun event member => agree event (List.mem_cons_of_mem _ member)
          | unmet clause => rfl
          | failed failure => rfl
      | invert =>
          rw [evaluate_invert, evaluate_invert, induction agree]
      | delay millis => rfl
      | within millis =>
          rw [evaluate_within, evaluate_within]
          exact Polling.repeated_congr (fun _ => induction) agree
      | during millis =>
          rw [evaluate_during, evaluate_during]
          exact Polling.repeated_congr (fun _ => induction) agree
      | expect type =>
          rw [evaluate_expect, evaluate_expect, induction agree]
      | unknown kind => rfl

end GuardedSteps
