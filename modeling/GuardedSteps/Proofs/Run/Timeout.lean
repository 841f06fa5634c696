import Mathlib.Data.List.DropRight
import GuardedSteps.Proofs.Run.Arrivals
import GuardedSteps.Proofs.Run.Chronicle
import GuardedSteps.Proofs.Run.Skip

/-!
The default timeout over a row of deeds. Whatever replaces it puts it back, in whatever way it ends;
and a call of an action sees the timeout of inversions if one stands behind the last delay of its
chain, and otherwise the one that was in force where its run began.
-/

namespace GuardedSteps

variable {T A M : Type} [ClockTime T]

/-! ## Calls behind guards -/

section

variable {bound : Nat} {perform : Effect (World T A M) Unit} {action : A} {rules : List Rule}
  {begun call : World T A M}

/-- What stands, and is left by the action and by inversions of the default timeout, is at a call what
it was where the run began. -/
theorem read_of_called {K : Type} {read : World T A M → K} (standing : World.Standing read)
    (leaves : perform.Leaves read)
    (inverting : .invert ∈ rules → ∀ world : World T A M, read world.inverting = read world)
    (called : .called call ∈ history bound perform action rules begun) : read call = read begun := by
  induction rules generalizing begun with
  | nil =>
      rw [history, List.mem_singleton] at called
      cases called
      rfl
  | cons rule rest induction =>
      have behind {start : World T A M} (called : .called call ∈ history bound perform action rest start) :
          read call = read start :=
        induction (fun member => inverting (List.mem_cons_of_mem rule member)) called
      have left := leaves_evaluate standing bound leaves action rest
      cases rule with
      | passthrough => exact behind called
      | conditionalSkip condition =>
          rw [history] at called
          rcases List.mem_cons.mp called with other | called
          · cases other
          · split at called
            · exact behind called
            · cases called
      | invert => exact (behind called).trans (inverting List.mem_cons_self begun)
      | delay millis => cases called
      | within millis =>
          rcases Polling.exists_start_repeated
            (fun interval _ => Polling.lawful_untilNext millis interval) called with ⟨start, found, kept⟩
          exact (behind found).trans (kept K read standing left)
      | during millis =>
          rcases Polling.exists_start_repeated (Polling.lawful_duringNext millis) called with
            ⟨start, found, kept⟩
          exact (behind found).trans (kept K read standing left)
      | expect type => exact behind called
      | unknown kind => cases called

theorem timeout_of_called (leaves : perform.Leaves World.defaultTimeout) (upright : .invert ∉ rules)
    (called : .called call ∈ history bound perform action rules begun) :
    call.defaultTimeout = begun.defaultTimeout :=
  read_of_called World.standing_defaultTimeout leaves (fun inverts => absurd inverts upright) called

theorem settings_of_called (leaves : perform.Leaves World.settings)
    (called : .called call ∈ history bound perform action rules begun) :
    call.settings = begun.settings :=
  read_of_called World.standing_settings leaves (fun _ _ => rfl) called

/-- The call is made inside of an inversion that is entered in some world, and of no further one. -/
def CalledInside (bound : Nat) (perform : Effect (World T A M) Unit) (action : A) (rules : List Rule)
    (begun call entered : World T A M) : Prop :=
  ∃ outer inner, rules = outer ++ .invert :: inner ∧ .invert ∉ inner ∧
    entered ∈ arrivals bound perform action (.invert :: inner) outer begun ∧
    .called call ∈ history bound perform action inner entered.inverting

theorem exists_calledInside (inverts : .invert ∈ rules)
    (called : .called call ∈ history bound perform action rules begun) :
    ∃ entered, CalledInside bound perform action rules begun call entered := by
  rcases List.eq_append_cons_of_mem (List.mem_reverse.mpr inverts) with ⟨inner, outer, split, none⟩
  have split : rules = outer.reverse ++ .invert :: inner.reverse := by
    rw [← List.reverse_reverse rules, split, List.reverse_append, List.reverse_cons, List.append_assoc,
      List.singleton_append]
  rcases exists_arrival (split ▸ called) with ⟨entered, arrived, inside⟩
  exact ⟨entered, outer.reverse, inner.reverse, split, mt List.mem_reverse.mp none, arrived, inside⟩

theorem CalledInside.timeout_eq {entered : World T A M} (leaves : perform.Leaves World.defaultTimeout)
    (inside : CalledInside bound perform action rules begun call entered) :
    call.defaultTimeout = entered.settings.invertTimeout := by
  rcases inside with ⟨outer, inner, -, upright, -, called⟩
  exact timeout_of_called leaves upright called

theorem CalledInside.settings_eq {entered : World T A M} (leaves : perform.Leaves World.settings)
    (inside : CalledInside bound perform action rules begun call entered) :
    call.settings = entered.settings := by
  rcases inside with ⟨outer, inner, -, -, -, called⟩
  have same : call.settings = entered.inverting.settings := settings_of_called leaves called
  exact same

end

/-! ## Passages -/

/-- One evaluation, run, waking of a delayed step or block in a row of deeds. -/
structure Passage (T A M : Type) where
  /-- The guards around the action; a block has none, and calls none. -/
  rules : List Rule
  begun : World T A M
  calls : List (A × World T A M)
  left : Option (World T A M)

def Passage.Of (rules : List Rule) (passage : Passage T A M) : Prop :=
  passage.rules = rules ∨ ∃ front millis, rules = front ++ .delay millis :: passage.rules

def Actions.calls (bound : Nat) (actions : Actions T A M) (action : A) (rules : List Rule)
    (world : World T A M) : List (A × World T A M) :=
  (Event.calls (history bound (actions.perform action) action rules world)).map (action, ·)

/-- The passage of a delayed step, if it is still waiting. A step that has been cancelled calls no
action. -/
def World.wakePassages (bound : Nat) (actions : Actions T A M) (serial : Nat) (world : World T A M) :
    List (Passage T A M) :=
  match world.waiting.find? (·.serial == serial) with
  | none => []
  | some delayed =>
    let begun := world.taken serial
    let calls :=
      if world.stopped.contains serial then []
      else actions.calls bound delayed.action delayed.rules begun
    [⟨delayed.rules, begun, calls, (wake bound actions serial world).map (·.2)⟩]

mutual
/-- The passages of a deed. -/
def Deed.passages (bound : Nat) (actions : Actions T A M) :
    Deed A → World T A M → List (Passage T A M)
  | .evaluate chain action, world =>
    let rules := chain.map (·.rule)
    [⟨rules, world, actions.calls bound action rules world,
      (GuardedSteps.evaluate bound (actions.perform action) action rules world).map (·.2)⟩]
  | .run chain action, world =>
    let rules := chain.map (·.rule)
    [⟨rules, world, actions.calls bound action rules world,
      (chain.run bound (actions.perform action) action world).map (·.2)⟩]
  | .wake serial, world => world.wakePassages bound actions serial
  | .override millis block, world =>
    ⟨[], world, [], (World.withTimeout millis (Deed.performAll bound actions block) world).map (·.2)⟩ ::
      Deed.passagesAll bound actions block { world with defaultTimeout := millis }
  | .attempt block, world => Deed.passagesAll bound actions block world
  | .cancel, _ | .sleep _, _ => []

def Deed.passagesAll (bound : Nat) (actions : Actions T A M) :
    List (Deed A) → World T A M → List (Passage T A M)
  | [], _ => []
  | deed :: rest, world =>
    Deed.passages bound actions deed world ++
      match Deed.perform bound actions deed world with
      | some (.ok (), after) => Deed.passagesAll bound actions rest after
      | _ => []
end

/-! ## What passages leave -/

/-- A passage puts the default timeout back, and its calls are those of a run of its rules. -/
structure Passage.Sound (bound : Nat) (actions : Actions T A M) (passage : Passage T A M) : Prop where
  restored : ∀ after, passage.left = some after →
    after.defaultTimeout = passage.begun.defaultTimeout
  called : ∀ action call, (action, call) ∈ passage.calls →
    .called call ∈ history bound (actions.perform action) action passage.rules passage.begun

/-- Of every action the default timeout is left as it was. -/
def Actions.LeaveTimeout (actions : Actions T A M) : Prop :=
  ∀ action, (actions.perform action).Leaves World.defaultTimeout

theorem Actions.called_of_mem_calls {actions : Actions T A M} {bound : Nat} {action other : A}
    {rules : List Rule} {world call : World T A M}
    (member : (other, call) ∈ actions.calls bound action rules world) :
    .called call ∈ history bound (actions.perform other) other rules world := by
  rcases List.mem_map.mp member with ⟨start, called, same⟩
  cases same
  exact Event.mem_calls_iff.mp called

theorem World.sound_wakePassages {actions : Actions T A M} (leaves : actions.LeaveTimeout)
    {bound : Nat} {serial : Nat} {world : World T A M} {passage : Passage T A M}
    (member : passage ∈ world.wakePassages bound actions serial) :
    passage.Sound bound actions := by
  unfold wakePassages at member
  split at member
  · cases member
  · next delayed _ =>
    cases List.mem_singleton.mp member
    constructor
    · intro after left
      have kept : after.defaultTimeout = world.defaultTimeout :=
        (leaves_wake standing_defaultTimeout bound leaves serial).left left
      exact kept
    · intro action call called
      simp only at called
      split at called
      · cases called
      · exact Actions.called_of_mem_calls called

mutual
theorem Deed.sound_passages {actions : Actions T A M} (leaves : actions.LeaveTimeout) {bound : Nat}
    {world : World T A M} {passage : Passage T A M} :
    (deed : Deed A) → passage ∈ Deed.passages bound actions deed world → passage.Sound bound actions
  | .evaluate chain action, member => by
    cases List.mem_singleton.mp member
    have kept := leaves_evaluate World.standing_defaultTimeout bound (leaves action) action
      (chain.map (·.rule))
    exact ⟨fun _ => kept.left, fun _ _ => Actions.called_of_mem_calls⟩
  | .run chain action, member => by
    cases List.mem_singleton.mp member
    have kept := Chain.leaves_run World.standing_defaultTimeout bound (leaves action) action chain
    exact ⟨fun _ => kept.left, fun _ _ => Actions.called_of_mem_calls⟩
  | .wake serial, member => World.sound_wakePassages leaves member
  | .override millis block, member => by
    rcases List.mem_cons.mp member with rfl | inside
    · have kept := World.leaves_withTimeout World.standing_defaultTimeout millis
        (Deed.leaves_performAll World.standing_defaultTimeout bound leaves block)
      exact ⟨fun _ => kept.left, fun _ _ called => nomatch called⟩
    · exact sound_passagesAll leaves block inside
  | .attempt block, member => sound_passagesAll leaves block member

theorem Deed.sound_passagesAll {actions : Actions T A M} (leaves : actions.LeaveTimeout)
    {bound : Nat} {world : World T A M} {passage : Passage T A M} :
    (deeds : List (Deed A)) → passage ∈ Deed.passagesAll bound actions deeds world →
      passage.Sound bound actions
  | deed :: rest, member => by
    rw [passagesAll] at member
    rcases List.mem_append.mp member with own | later
    · exact sound_passages leaves deed own
    · split at later
      · exact sound_passagesAll leaves rest later
      · cases later
end

/-! ## Watching the calls of passages -/

/-- What actions remember grows at each call by what marks the action and the world of the call. -/
def Actions.Mark {K : Type} (actions : Actions T A M) (seen : M → List K)
    (mark : A × World T A M → List K) : Prop :=
  ∀ action world ended after, actions.perform action world = some (ended, after) →
    seen after.memory = seen world.memory ++ mark (action, world)

section

variable {K : Type} {actions : Actions T A M} {seen : M → List K} {mark : A × World T A M → List K}

def calledMark (mark : A × World T A M → List K) (action : A) (event : Event T A M) : List K :=
  (Event.calls [event]).flatMap fun call => mark (action, call)

omit [ClockTime T] in
theorem flatMap_calledMark (action : A) (events : List (Event T A M)) :
    events.flatMap (calledMark mark action) =
      (Event.calls events).flatMap fun call => mark (action, call) := by
  induction events with
  | nil => rfl
  | cons event rest induction =>
      rw [List.flatMap_cons, induction]
      have split := Event.calls_append [event] rest
      rw [List.singleton_append] at split
      rw [split, List.flatMap_append]
      rfl

theorem Actions.Mark.seen_evaluate (marks : actions.Mark seen mark) {bound : Nat} {action : A}
    {rules : List Rule} {world after : World T A M} {ended : Except Failure Result}
    (ran : evaluate bound (actions.perform action) action rules world = some (ended, after)) :
    seen after.memory = seen world.memory ++ (actions.calls bound action rules world).flatMap mark := by
  have watches : Watches (actions.perform action) (seen ·.memory) (calledMark mark action) := by
    constructor
    case called =>
      intro call value left performed
      simpa [calledMark, Event.calls] using marks action call value left performed
    all_goals simp [calledMark, Event.calls, World.note, World.delay]
  rw [GuardedSteps.seen_evaluate bound action watches rules world ended after ran, flatMap_calledMark,
    Actions.calls, List.flatMap_map]

theorem Actions.Mark.seen_wake (marks : actions.Mark seen mark) {bound : Nat} {serial : Nat} {world after : World T A M}
    {ended : Except Failure Unit}
    (ran : World.wake bound actions serial world = some (ended, after)) :
    seen after.memory = seen world.memory ++
      (world.wakePassages bound actions serial).flatMap (·.calls.flatMap mark) := by
  rw [World.wake] at ran
  rw [World.wakePassages]
  cases found : world.waiting.find? (·.serial == serial) with
  | none =>
      rw [found] at ran
      cases ran
      exact (List.append_nil _).symm
  | some delayed =>
      have same : delayed.serial = serial := by simpa using List.find?_some found
      subst same
      rw [found] at ran
      rcases Option.map_eq_some_iff.mp ran with ⟨⟨value, reached⟩, inner, same⟩
      cases same
      rw [List.flatMap_singleton]
      by_cases stopped : world.stopped.contains delayed.serial = true
      · rw [if_pos stopped]
        unfold World.runDelayed at inner
        simp only [if_pos stopped] at inner
        cases inner
        exact (List.append_nil _).symm
      · rw [if_neg stopped]
        rcases Follows.exists_evaluate_of_runDelayed inner stopped with ⟨_, last, log, evaluated, rfl⟩
        exact marks.seen_evaluate evaluated

mutual
theorem Actions.Mark.seen_perform (marks : actions.Mark seen mark) {bound : Nat} :
    (deed : Deed A) → ∀ (world : World T A M) (ended : Except Failure Unit) (after : World T A M),
      Deed.perform bound actions deed world = some (ended, after) →
        seen after.memory = seen world.memory ++
          (Deed.passages bound actions deed world).flatMap (·.calls.flatMap mark)
  | .evaluate chain action, world, ended, after, ran => by
    rcases Effect.exists_of_andThen (fun _ => .done ()) ran with ⟨value, inner⟩
    rw [Deed.passages, List.flatMap_singleton]
    exact marks.seen_evaluate inner
  | .run chain action, world, ended, after, ran => by
    rcases Effect.exists_of_andThen Result.leaves_settle ran with ⟨value, inner⟩
    rw [Deed.passages, List.flatMap_singleton]
    exact marks.seen_evaluate inner
  | .wake serial, world, ended, after, ran => marks.seen_wake ran
  | .cancel, world, ended, after, ran => by
    cases ran
    exact (List.append_nil _).symm
  | .sleep millis, world, ended, after, ran => by
    rw [Deed.perform, World.sleepMillis] at ran
    split at ran
    · cases ran
      exact (List.append_nil _).symm
    · cases ran
      exact (List.append_nil _).symm
  | .override millis block, world, ended, after, ran => by
    rw [Deed.perform] at ran
    rcases Option.map_eq_some_iff.mp ran with ⟨⟨value, reached⟩, inner, same⟩
    cases same
    exact marks.seen_performAll block _ value reached inner
  | .attempt block, world, ended, after, ran => by
    rw [Deed.perform] at ran
    rcases Option.map_eq_some_iff.mp ran with ⟨⟨value, reached⟩, inner, same⟩
    cases same
    exact marks.seen_performAll block world value reached inner

/-- What is remembered of a row of deeds are the calls of its passages. -/
theorem Actions.Mark.seen_performAll (marks : actions.Mark seen mark) {bound : Nat} :
    (deeds : List (Deed A)) → ∀ (world : World T A M) (ended : Except Failure Unit) (after : World T A M),
      Deed.performAll bound actions deeds world = some (ended, after) →
        seen after.memory = seen world.memory ++
          (Deed.passagesAll bound actions deeds world).flatMap (·.calls.flatMap mark)
  | [], world, ended, after, ran => by
    cases ran
    exact (List.append_nil _).symm
  | deed :: rest, world, ended, after, ran => by
    rw [Deed.performAll] at ran
    rw [Deed.passagesAll, List.flatMap_append, ← List.append_assoc]
    unfold Effect.andThen at ran
    split at ran
    · next reached first =>
      rw [← marks.seen_perform deed world _ reached first, first]
      exact marks.seen_performAll rest reached ended after ran
    · next failure reached first =>
      cases ran
      rw [← marks.seen_perform deed world _ after first, first]
      exact (List.append_nil _).symm
    · cases ran
end

end

/-! ## Chains with delays -/

def Rule.isDelay : Rule → Bool
  | .delay _ => true
  | _ => false

/-- The guards behind the last delay, or all guards if there is none. -/
def Rule.behindDelays (rules : List Rule) : List Rule := rules.rtakeWhile (!·.isDelay)

theorem Rule.behindDelays_of_ahead {rules : List Rule} (ahead : ∀ millis, .delay millis ∉ rules) :
    behindDelays rules = rules := by
  apply List.rtakeWhile_eq_self_iff.mpr
  intro rule member
  cases rule with
  | delay millis => exact absurd member (ahead millis)
  | _ => rfl

theorem Rule.behindDelays_append (front : List Rule) (millis : Nat) (rules : List Rule) :
    behindDelays (front ++ .delay millis :: rules) = behindDelays rules := by
  unfold behindDelays List.rtakeWhile
  rw [List.reverse_append, List.reverse_cons, List.append_assoc, List.takeWhile_append]
  split
  · next whole =>
    have same := (List.takeWhile_prefix fun rule => !isDelay rule).eq_of_length whole
    rw [same]
    exact congrArg List.reverse (List.append_nil rules.reverse)
  · rfl

/-- The guards that stand around an action when it is called are those behind the last delay. -/
theorem Passage.Sound.behindDelays_eq {bound : Nat} {actions : Actions T A M} {passage : Passage T A M}
    (sound : passage.Sound bound actions) {action : A} {call : World T A M}
    (called : (action, call) ∈ passage.calls) {rules : List Rule} (of : passage.Of rules) :
    Rule.behindDelays rules = passage.rules := by
  have ahead (millis : Nat) : .delay millis ∉ passage.rules := by
    intro member
    rcases List.append_of_mem member with ⟨front, behind, split⟩
    have made := sound.called action call called
    rw [split] at made
    exact not_called_of_delay bound _ action front millis behind _ call made
  rcases of with same | ⟨front, millis, rfl⟩
  · rw [← same]
    exact Rule.behindDelays_of_ahead ahead
  · rw [Rule.behindDelays_append]
    exact Rule.behindDelays_of_ahead ahead

/-- In every row of deeds, each evaluation, run, delayed step and block leaves the default timeout as
it found it, in whatever way it ends. An action that is called sees the timeout of inversions if its
chain inverts behind the last delay, as the settings have it when the innermost inversion is entered,
and otherwise the default timeout that was in force where the evaluation or the delayed step began.
The calls are those of which the actions take note. -/
theorem Deed.timeout_of_passage (bound : Nat) {actions : Actions T A M}
    (leaves : actions.LeaveTimeout) (deeds : List (Deed A)) (world : World T A M) :
    (∀ passage ∈ Deed.passagesAll bound actions deeds world,
      (∀ after, passage.left = some after → after.defaultTimeout = passage.begun.defaultTimeout) ∧
        ∀ action call, (action, call) ∈ passage.calls → ∀ rules, passage.Of rules →
          (.invert ∉ Rule.behindDelays rules →
            call.defaultTimeout = passage.begun.defaultTimeout) ∧
          (.invert ∈ Rule.behindDelays rules → ∃ entered : World T A M,
            CalledInside bound (actions.perform action) action (Rule.behindDelays rules) passage.begun
              call entered ∧
            call.defaultTimeout = entered.settings.invertTimeout ∧
            ((actions.perform action).Leaves World.settings → call.settings = entered.settings))) ∧
    ∀ (K : Type) (seen : M → List K) (mark : A × World T A M → List K), actions.Mark seen mark →
      ∀ ended after, Deed.performAll bound actions deeds world = some (ended, after) →
        seen after.memory = seen world.memory ++
          (Deed.passagesAll bound actions deeds world).flatMap (·.calls.flatMap mark) := by
  constructor
  · intro passage member
    have sound := sound_passagesAll leaves deeds member
    refine ⟨sound.restored, fun action call called rules of => ?_⟩
    have made := sound.called action call called
    rw [sound.behindDelays_eq called of]
    constructor
    · intro upright
      exact timeout_of_called (leaves action) upright made
    · intro inverts
      rcases exists_calledInside inverts made with ⟨entered, inside⟩
      exact ⟨entered, inside, inside.timeout_eq (leaves action), fun keeps => inside.settings_eq keeps⟩
  · intro K seen mark marks ended after ran
    exact marks.seen_performAll deeds world ended after ran

def unsettling : Actions Int Unit (List Int) where
  perform _ world :=
    let ended := if world.memory.isEmpty then .error (.raised .assertionError none) else .ok ()
    some (ended, { world with
      settings := { world.settings with invertTimeout := 90 }
      memory := world.memory ++ [world.defaultTimeout] })
  label _ := "unsettling"

def lateInversion : List (Deed Unit) :=
  [.override 70
    [.evaluate [⟨.invert, {}⟩, ⟨.delay 5, {}⟩, ⟨.invert, {}⟩, ⟨.within 50, {}⟩] (), .wake 0]]

theorem Deed.timeout_of_lateInversion :
    (∃ passage ∈ Deed.passagesAll 9 unsettling lateInversion startingWorld,
      passage.Of [.invert, .delay 5, .invert, .within 50] ∧
        (∃ after, passage.left = some after ∧ after.defaultTimeout = 70) ∧
        ∃ call entered, ((), call) ∈ passage.calls ∧ call.now = 10 ∧ call.settings.invertTimeout = 90 ∧
          CalledInside 9 (unsettling.perform ()) () [.invert, .within 50] passage.begun call entered ∧
          entered.settings.invertTimeout = 200) ∧
      ∃ ended after, Deed.performAll 9 unsettling lateInversion startingWorld = some (ended, after) ∧
        after.memory = [200, 200] := by
  have leaves : unsettling.LeaveTimeout := by
    intro action world ended after ran
    cases ran
    rfl
  have marks : unsettling.Mark id fun call => [call.2.defaultTimeout] := by
    intro action world ended after ran
    cases ran
    rfl
  have timeout := Deed.timeout_of_passage 9 leaves lateInversion startingWorld
  constructor
  · let passages := Deed.passagesAll 9 unsettling lateInversion startingWorld
    have member : passages.get ⟨2, by decide +kernel⟩ ∈ passages := List.get_mem _ _
    have of : (passages.get ⟨2, by decide +kernel⟩).Of [.invert, .delay 5, .invert, .within 50] :=
      .inr ⟨[.invert], 5, rfl⟩
    rcases timeout.1 _ member with ⟨restored, sees⟩
    rcases (sees () _ (.tail _ (.head _)) _ of).2 (by decide) with ⟨entered, inside, same, -⟩
    exact ⟨_, member, of, ⟨_, rfl, restored _ rfl⟩, _, entered, .tail _ (.head _), rfl, rfl, inside,
      same.symm⟩
  · have runs : (Deed.performAll 9 unsettling lateInversion startingWorld).isSome := by decide +kernel
    rcases Option.isSome_iff_exists.mp runs with ⟨⟨ended, after⟩, ran⟩
    have seen := timeout.2 Int id _ marks ended after ran
    have calls : (Deed.passagesAll 9 unsettling lateInversion startingWorld).flatMap
        (·.calls.flatMap fun call => [call.2.defaultTimeout]) = [200, 200] := by decide +kernel
    exact ⟨ended, after, ran, seen.trans calls⟩

end GuardedSteps
