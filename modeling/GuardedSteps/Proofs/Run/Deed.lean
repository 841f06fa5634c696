import GuardedSteps.Proofs.Run.Standing

/-!
Rows of deeds. In one world chains are evaluated and run, delayed steps wake up, delays are cancelled,
and blocks of deeds replace the default timeout or catch a failure.
-/

namespace GuardedSteps

variable {T A M : Type} [ClockTime T]

/-- Wakes a delayed step up, if it is still waiting. What it raises stays in the background. -/
def World.wake (bound : Nat) (actions : Actions T A M) (serial : Nat) : Effect (World T A M) Unit :=
  fun world =>
    match world.waiting.find? (·.serial == serial) with
    | none => some (.ok (), world)
    | some delayed =>
      (runDelayed bound actions delayed
        { world with waiting := world.waiting.filter (·.serial != serial) }).map fun ended =>
          (.ok (), ended.2)

theorem World.leaves_wake {K : Type} {read : World T A M → K} (standing : Standing read) (bound : Nat)
    {actions : Actions T A M} (leaves : ∀ action, (actions.perform action).Leaves read) (serial : Nat) :
    (wake bound actions serial).Leaves read := by
  intro world ended after ran
  unfold wake at ran
  split at ran
  · cases ran
    rfl
  · next delayed _ =>
    rcases Option.map_eq_some_iff.mp ran with ⟨⟨value, reached⟩, inner, same⟩
    cases same
    exact (leaves_runDelayed standing bound leaves delayed _ _ _ inner).trans
      (standing.idle world _ _ _ _ _ _)

/-! ## Deeds -/

/-- What can be done in a world. -/
inductive Deed (A : Type)
  | evaluate (chain : Chain) (action : A)
  | run (chain : Chain) (action : A)
  | wake (serial : Nat)
  | cancel
  | sleep (millis : Int)
  | override (millis : Int) (block : List (Deed A))
  | attempt (block : List (Deed A))

mutual
def Deed.perform (bound : Nat) (actions : Actions T A M) : Deed A → Effect (World T A M) Unit
  | .evaluate chain action =>
    (GuardedSteps.evaluate bound (actions.perform action) action (chain.map (·.rule))).andThen
      fun _ => Effect.done ()
  | .run chain action => chain.run bound (actions.perform action) action
  | .wake serial => World.wake bound actions serial
  | .cancel => Effect.change World.cancelPending
  | .sleep millis => World.sleepMillis millis
  | .override millis block => World.withTimeout millis (Deed.performAll bound actions block)
  | .attempt block => fun world =>
    (Deed.performAll bound actions block world).map fun ended => (.ok (), ended.2)

/-- Performs deeds one after the other, until one of them fails. -/
def Deed.performAll (bound : Nat) (actions : Actions T A M) :
    List (Deed A) → Effect (World T A M) Unit
  | [] => Effect.done ()
  | deed :: rest => (Deed.perform bound actions deed).andThen fun _ => Deed.performAll bound actions rest
end

mutual
theorem Deed.leaves_perform {K : Type} {read : World T A M → K} (standing : World.Standing read)
    (bound : Nat) {actions : Actions T A M} (leaves : ∀ action, (actions.perform action).Leaves read) :
    (deed : Deed A) → (perform bound actions deed).Leaves read
  | .evaluate _ action =>
    (leaves_evaluate standing bound (leaves action) action _).andThen fun _ => .done ()
  | .run chain action => Chain.leaves_run standing bound (leaves action) action chain
  | .wake serial => World.leaves_wake standing bound leaves serial
  | .cancel => World.leaves_cancelPending standing
  | .sleep millis => World.leaves_sleepMillis standing millis
  | .override millis block =>
    World.leaves_withTimeout standing millis (leaves_performAll standing bound leaves block)
  | .attempt block => by
    intro world ended after ran
    rcases Option.map_eq_some_iff.mp ran with ⟨⟨value, reached⟩, inner, same⟩
    cases same
    exact leaves_performAll standing bound leaves block world value reached inner

theorem Deed.leaves_performAll {K : Type} {read : World T A M → K} (standing : World.Standing read)
    (bound : Nat) {actions : Actions T A M} (leaves : ∀ action, (actions.perform action).Leaves read) :
    (deeds : List (Deed A)) → (performAll bound actions deeds).Leaves read
  | [] => .done ()
  | deed :: rest =>
    (leaves_perform standing bound leaves deed).andThen fun _ =>
      leaves_performAll standing bound leaves rest
end

/-! ## Calls -/

def Event.calls (events : List (Event T A M)) : List (World T A M) :=
  events.filterMap fun
    | .called world => some world
    | .checked _ _ => none

omit [ClockTime T] in
theorem Event.mem_calls_iff {events : List (Event T A M)} {world : World T A M} :
    world ∈ calls events ↔ .called world ∈ events := by
  unfold calls
  rw [List.mem_filterMap]
  constructor
  · rintro ⟨event, member, found⟩
    cases event with
    | called other =>
        cases found
        exact member
    | checked condition other => cases found
  · intro member
    exact ⟨_, member, rfl⟩

end GuardedSteps
