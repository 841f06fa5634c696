import GuardedSteps.Proofs.Clock
import GuardedSteps.Proofs.Number.Doubles
import GuardedSteps.Proofs.Run.Deed
import GuardedSteps.Proofs.Run.Signals
import GuardedSteps.Proofs.Run.Skip

/-!
De Morgan's law of polling. That a step has to fail while it would have to succeed again and again is
the same as waiting until the step fails. Both polls make the same attempts: the one in a world that
has the timeout of inversions all the time, the other in a world that has it during each attempt.
-/

namespace GuardedSteps

variable {T A M : Type} [ClockTime T]

/-! ## Runs that are reported alike -/

def Result.reported (run : Except Failure Result × World T A M) :
    Except Failure String × World T A M :=
  (run.1.map Result.status, run.2)

/-- Behind two rows of guards, runs from a world happen in the same way and are reported alike. -/
structure Alike (bound : Nat) (perform : Effect (World T A M) Unit) (action : A)
    (first second : List Rule) (world : World T A M) : Prop where
  reported : (evaluate bound perform action first world).map Result.reported =
    (evaluate bound perform action second world).map Result.reported
  history : history bound perform action first world = history bound perform action second world

/-! ## Inside and outside of an inversion -/

/-- The world as it is outside of an inversion, with the default timeout that is in force there. -/
def World.outside (timeout : Int) (world : World T A M) : World T A M :=
  { world with defaultTimeout := timeout }

/-- A world inside an inversion. -/
def World.Inside (world : World T A M) : Prop :=
  world.defaultTimeout = world.settings.invertTimeout

omit [ClockTime T] in
theorem World.inside_of_read {world after : World T A M} (inside : world.Inside)
    (timeout : after.defaultTimeout = world.defaultTimeout) (settings : after.settings = world.settings) :
    after.Inside := by
  rw [World.Inside, timeout, settings]
  exact inside

omit [ClockTime T] in
theorem World.Inside.inverting_outside {world : World T A M} (inside : world.Inside) (timeout : Int) :
    (world.outside timeout).inverting = world := by
  unfold outside inverting
  rw [← inside]

def Effect.inverted (rest : Effect (World T A M) Result) : Effect (World T A M) Result := fun world =>
  (rest world.inverting).map fun (ended, after) =>
    (ended.map Result.inverted, after.outside world.defaultTimeout)

omit [ClockTime T] in
theorem World.Inside.inverted_outside {world : World T A M} (inside : world.Inside)
    (rest : Effect (World T A M) Result) (timeout : Int) :
    rest.inverted (world.outside timeout) =
      (rest world).map fun (ended, after) => (ended.map Result.inverted, after.outside timeout) := by
  unfold Effect.inverted
  rw [inside.inverting_outside timeout]
  rfl

namespace Polling

/-- What an attempt leads to inside of an inversion, and what it leads to outside: further attempts
from the same world, or the same world with opposite results. -/
inductive Next.Dual (timeout : Int) :
    Next (World T A M) Result → Next (World T A M) Result → Prop
  | again (inner : World T A M) : Dual timeout (.again inner) (.again (inner.outside timeout))
  | ended {value other : Except Failure Result} (last : World T A M)
      (opposite : (value.map Result.inverted).map Result.status = other.map Result.status) :
      Dual timeout (.ended value last) (.ended other (last.outside timeout))

/-- Two ways of going on that make opposite things of opposite ends, for all ends of some kind. -/
def Dual (kind : Except Failure Result → Prop) (timeout : Int) (inside outside : Choice T A M) : Prop :=
  ∀ ended after, World.Inside after → kind ended →
    Next.Dual timeout (inside ended after) (outside (ended.map Result.inverted) (after.outside timeout))

def starts (bound : Nat) (millis : Int)
    (next : (interval : Int) → (opened deadline : T) → Choice T A M)
    (rest : Effect (World T A M) Result) (world : World T A M) : List (World T A M) :=
  match ClockTime.ofMillis millis with
  | .ok span =>
    let deadline := ClockTime.later world.now span
    attemptsHistory (tried rest (next world.settings.pollInterval world.now deadline)) ([·]) bound world
  | .error _ => []

theorem inside_of_tried {rest : Effect (World T A M) Result}
    (leavesTimeout : rest.Leaves World.defaultTimeout) (leavesSettings : rest.Leaves World.settings)
    {interval : Int} {deadline : T} {next : Choice T A M} (lawful : Lawful interval deadline next)
    {world : World T A M}
    {choice : Next (World T A M) Result} (within : world.Inside)
    (made : tried rest next world = some choice) : World.Inside choice.state :=
  World.inside_of_read within (read_tried World.standing_defaultTimeout lawful leavesTimeout made)
    (read_tried World.standing_settings lawful leavesSettings made)

omit [ClockTime T] in
/-- One attempt inside of an inversion, and the same attempt from outside. -/
theorem tried_dual {rest : Effect (World T A M) Result}
    (leavesTimeout : rest.Leaves World.defaultTimeout) (leavesSettings : rest.Leaves World.settings)
    {kind : Except Failure Result → Prop} {timeout : Int} {inside outside : Choice T A M}
    (dual : Dual kind timeout inside outside) {world : World T A M} (within : world.Inside)
    (kinds : ∀ ended after, rest world = some (ended, after) → kind ended) :
    Option.Rel (Next.Dual timeout) (tried rest inside world)
      (tried rest.inverted outside (world.outside timeout)) := by
  have fromOutside := within.inverted_outside rest timeout
  cases ran : rest world with
  | none =>
      rw [ran] at fromOutside
      have first : tried rest inside world = none := by simp [tried, ran]
      have second : tried rest.inverted outside (world.outside timeout) = none := by
        simp [tried, fromOutside]
      rw [first, second]
      exact .none
  | some found =>
      rcases found with ⟨ended, after⟩
      have still := World.inside_of_read within (leavesTimeout world ended after ran)
        (leavesSettings world ended after ran)
      rw [ran] at fromOutside
      have first : tried rest inside world = some (inside ended after) := by simp [tried, ran]
      have second : tried rest.inverted outside (world.outside timeout) =
          some (outside (ended.map Result.inverted) (after.outside timeout)) := by
        simp [tried, fromOutside]
      rw [first, second]
      exact .some (dual ended after still (kinds ended after ran))

/-- Rows of attempts inside and outside of an inversion go on together and end in opposite results. -/
theorem attempts_dual {rest : Effect (World T A M) Result}
    (leavesTimeout : rest.Leaves World.defaultTimeout) (leavesSettings : rest.Leaves World.settings)
    {kind : Except Failure Result → Prop} {timeout : Int} {inside outside : Choice T A M}
    (dual : Dual kind timeout inside outside) {interval : Int} {deadline : T}
    (lawful : Lawful interval deadline inside)
    {bound : Nat} {world : World T A M} (within : world.Inside)
    (kinds : ∀ start ∈ attemptsHistory (tried rest inside) ([·]) bound world,
      ∀ ended after, rest start = some (ended, after) → kind ended) :
    (attempts (tried rest inside) bound world).map
        (fun (ended, after) => Result.reported (ended.map Result.inverted, after.outside timeout)) =
      (attempts (tried rest.inverted outside) bound (world.outside timeout)).map Result.reported ∧
    ∀ (ε : Type) (past : World T A M → List ε),
      attemptsHistory (tried rest inside) past bound world =
        attemptsHistory (tried rest.inverted outside) (fun start => past start.inverting) bound
          (world.outside timeout) := by
  induction bound generalizing world with
  | zero => exact ⟨rfl, fun _ _ => rfl⟩
  | succ bound induction =>
      have entered := within.inverting_outside timeout
      have first : world ∈ attemptsHistory (tried rest inside) ([·]) (bound + 1) world := by
        simp [attemptsHistory]
      have together := tried_dual leavesTimeout leavesSettings dual within (kinds world first)
      generalize made : tried rest inside world = choice at together
      generalize other : tried rest.inverted outside (world.outside timeout) = choice' at together
      rw [attempts_succ, attempts_succ, made, other]
      simp only [attemptsHistory, made, other, entered]
      cases together with
      | none => exact ⟨rfl, fun _ _ => rfl⟩
      | some next =>
          cases next with
          | ended last opposite =>
              refine ⟨?_, fun _ _ => rfl⟩
              simp [Next.followed, Result.reported, opposite]
          | again inner =>
              have still : inner.Inside := inside_of_tried leavesTimeout leavesSettings lawful within made
              have later : ∀ start ∈ attemptsHistory (tried rest inside) ([·]) bound inner,
                  start ∈ attemptsHistory (tried rest inside) ([·]) (bound + 1) world := by
                intro start member
                simp [attemptsHistory, made, member]
              have tail := induction still fun start member => kinds start (later start member)
              exact ⟨tail.1, fun ε past => congrArg (past world ++ ·) (tail.2 ε past)⟩

/-! ## The two polls -/

def Measured (T : Type) [ClockTime T] (millis : Int) : Prop :=
  ∃ span : T, ClockTime.ofMillis millis = .ok span

theorem beforeDeadline_dual {interval : Int} (paced : Measured T interval) (timeout : Int) (deadline : T)
    {final other : Result} (opposite : final.inverted.status = other.status) (world : World T A M) :
    Next.Dual timeout (beforeDeadline interval deadline final world)
      (beforeDeadline interval deadline other (world.outside timeout)) := by
  have now : (world.outside timeout).now = world.now := rfl
  unfold beforeDeadline
  rw [now]
  rcases paced with ⟨span, measured⟩
  simp only [measured]
  split
  · exact .ended world (congrArg Except.ok opposite)
  · exact .again (world.sleep _)

def FailsAsserting (ended : Except Failure Result) : Prop :=
  Result.EndsSorted ended ∧ ∀ failure, ended = .ok (.failed failure) → failure.isAssertion = true

/-- To succeed again and again inside of an inversion is to wait for a failure outside. -/
theorem dual_during_until (timeout millis : Int) {interval : Int} (paced : Measured T interval)
    (opened deadline : T) :
    Dual Result.EndsSorted timeout (duringNext millis interval opened deadline : Choice T A M)
      (untilNext millis interval deadline) := by
  intro ended after inside sorted
  cases ended with
  | ok result =>
      cases result with
      | passed =>
          have assertion : Failure.unexpectedPass.isAssertion = true := by decide
          have opposite : Result.passed.inverted.status =
              (Result.failed (.notFulfilled millis .unexpectedPass)).status := rfl
          simp only [duringNext, untilNext, Except.map, Result.inverted, assertion, if_true]
          exact beforeDeadline_dual paced timeout deadline opposite after
      | skipped => exact .ended after rfl
      | failed failure =>
          have ordinary : failure.isOrdinary = true := sorted
          simp only [duringNext, untilNext, Except.map, Result.inverted, ordinary, if_true]
          exact .ended after rfl
  | error failure =>
      simp only [duringNext, untilNext, Except.map, surfaced, sorted.1, sorted.2, Bool.false_eq_true,
        if_false]
      exact .ended after rfl

theorem dual_until_during (timeout millis : Int) {interval : Int} (paced : Measured T interval)
    (opened deadline : T) :
    Dual FailsAsserting timeout (untilNext millis interval deadline : Choice T A M)
      (duringNext millis interval opened deadline) := by
  rintro ended after inside ⟨sorted, asserting⟩
  cases ended with
  | ok result =>
      cases result with
      | passed =>
          have ordinary : Failure.unexpectedPass.isOrdinary = true := by decide
          simp only [duringNext, untilNext, Except.map, Result.inverted, ordinary, if_true]
          exact .ended after rfl
      | skipped => exact .ended after rfl
      | failed failure =>
          have assertion := asserting failure rfl
          have opposite :
              (Result.failed (failure.reportedAs (.notFulfilled millis failure))).inverted.status =
                Result.passed.status := rfl
          simp only [duringNext, untilNext, Except.map, Result.inverted, assertion, if_true]
          exact beforeDeadline_dual paced timeout deadline opposite after
  | error failure =>
      simp only [duringNext, untilNext, Except.map, surfaced, sorted.1, sorted.2, Bool.false_eq_true,
        if_false]
      exact .ended after rfl

end Polling

/-! ## Polls inside and outside of an inversion -/

/-- A clock that can measure the wait of every guard. -/
class ClockTime.Measures (T : Type) [ClockTime T] : Prop where
  measures : ∀ millis : Nat, millis ≤ maxMillis → ∃ span : T, ofMillis millis = .ok span

instance : ClockTime.Measures Int where
  measures millis _ := ⟨millis, rfl⟩

instance : ClockTime.Measures Float where
  measures millis valid := by
    rcases Number.ofInteger_of_le_maxMillis valid with ⟨x, found⟩
    exact ⟨x / 1000.0, by simp only [ClockTime.ofMillis, found]⟩

/-- The worlds in which the rest of a chain is tried behind an inversion and a poll. -/
def triesBehindInvert (bound : Nat) (perform : Effect (World T A M) Unit) (action : A) (millis : Nat)
    (rules : List Rule) (world : World T A M) : List (World T A M) :=
  Polling.starts bound millis (fun interval _ => Polling.untilNext millis interval)
    (evaluate bound perform action rules) world.inverting

namespace Polling

theorem repeated_dual (bound : Nat) {rest : Effect (World T A M) Result}
    (leavesTimeout : rest.Leaves World.defaultTimeout) (leavesSettings : rest.Leaves World.settings)
    {kind : Except Failure Result → Prop}
    {inside outside : (interval : Int) → (opened deadline : T) → Choice T A M}
    (dual : ∀ timeout {interval}, Measured T interval → ∀ opened deadline,
      Dual kind timeout (inside interval opened deadline) (outside interval opened deadline))
    (lawful : ∀ interval opened deadline, Lawful interval deadline (inside interval opened deadline))
    {millis : Int} {world : World T A M} (within : world.inverting.Inside)
    (paced : Measured T world.settings.pollInterval) (measured : Measured T millis)
    (kinds : ∀ start ∈ starts bound millis inside rest world.inverting,
      ∀ ended after, rest start = some (ended, after) → kind ended) :
    (repeated bound millis inside rest world.inverting).map
        (fun (ended, after) =>
          Result.reported (ended.map Result.inverted, after.outside world.defaultTimeout)) =
      (repeated bound millis outside rest.inverted world).map Result.reported ∧
    ∀ past : World T A M → List (Event T A M),
      repeatedHistory bound millis inside rest past world.inverting =
        repeatedHistory bound millis outside rest.inverted (fun start => past start.inverting) world := by
  rcases measured with ⟨span, measured⟩
  unfold starts at kinds
  unfold repeated repeatedHistory
  simp only [measured] at kinds ⊢
  have rows := attempts_dual leavesTimeout leavesSettings
    (dual world.defaultTimeout paced world.now (ClockTime.later world.now span)) (lawful _ _ _) within
    kinds
  exact ⟨rows.1, fun past => rows.2 _ past⟩

end Polling

theorem evaluate_invert_eq (bound : Nat) (perform : Effect (World T A M) Unit) (action : A)
    (rules : List Rule) :
    evaluate bound perform action (.invert :: rules) =
      (evaluate bound perform action rules).inverted :=
  funext (evaluate_invert bound perform action rules)

def openingSeconds : World Float Unit Unit := .opening [] .standard ()

end GuardedSteps
