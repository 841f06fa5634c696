import GuardedSteps.Proofs.Number.Difference
import GuardedSteps.Proofs.Run.Polls

/-!
The end of the window. However long a poll pauses, it does not end for want of time while its clock is
before the deadline, so its last call is made there or decides the poll by itself. What an operation
comes to from some reading on is therefore always seen, if this reading is not behind the deadline. The
guards that poll an action see it too.
-/

namespace GuardedSteps

namespace Polling

/-! ## Calls of a poll -/

section

variable {σ T : Type} [ClockTime T] [Clocked σ T]

/-- What holds of all calls that can be made from some state on. -/
def EveryCall (operation : Effect σ Unit) (start : σ) (link : Call σ → Call σ → Prop)
    (holds : Call σ → Prop) : Prop :=
  ∀ calls, Calls operation start link calls → ∀ call ∈ calls, holds call

def RaisesOnly (kind : Failure → Bool) (ended : Except Failure Unit) : Prop :=
  ∀ failure, ended = .error failure → kind failure = true

def FailsOrdinarily (ended : Except Failure Unit) : Prop :=
  ∃ failure, ended = .error failure ∧ failure.isOrdinary = true

/-- A call during which the clock stands still, and that ends in one way before some reading and in
another one from this reading on. -/
structure Switches (switch : T) (early late : Except Failure Unit → Prop) (call : Call σ) : Prop where
  still : Clocked.now call.after = Clocked.now call.before
  early : ClockTime.less (Clocked.now call.before) switch = true → early call.ended
  late : ClockTime.NotBefore switch (Clocked.now call.before) → late call.ended

variable {operation : Effect σ Unit} {start : σ} {link : Call σ → Call σ → Prop} {holds : Call σ → Prop}

theorem EveryCall.first (every : EveryCall operation start link holds) {ended : Except Failure Unit}
    {after : σ} (called : operation start = some (ended, after)) : holds ⟨start, ended, after⟩ :=
  every _ (calls_singleton called) _ List.mem_cons_self

theorem EveryCall.behind (every : EveryCall operation start link holds) {ended : Except Failure Unit}
    {after later : σ} (called : operation start = some (ended, after))
    (linked : ∀ second : Call σ, second.before = later → link ⟨start, ended, after⟩ second) :
    EveryCall operation later link holds := fun _ calls call member =>
  every _ (.cons called calls linked) call (List.mem_cons_of_mem _ member)

/-! ## The last call -/

variable [ClockTime.Timely T] {switch deadline : T} {early late : Except Failure Unit → Prop}
  {call : Call σ}

/-- When the time is up behind a call, it has ended as it does from the given reading on. -/
theorem Switches.late_of_isOver (switches : Switches switch early late call)
    (ahead : ClockTime.NotBefore switch deadline)
    (reached : ClockTime.isOver (ClockTime.since deadline (Clocked.now call.after)) = true) :
    late call.ended := by
  cases before : ClockTime.less (Clocked.now call.before) switch with
  | true =>
      have remains := ClockTime.Timely.early before ahead
      rw [← switches.still, reached] at remains
      cases remains
  | false => exact switches.late before

omit [ClockTime.Timely T] in
theorem Switches.either (switches : Switches switch early late call) :
    early call.ended ∨ late call.ended := by
  cases before : ClockTime.less (Clocked.now call.before) switch with
  | true => exact .inl (switches.early before)
  | false => exact .inr (switches.late before)

theorem UntilDecides.eq_ok {limit : Int} {pause : T} {value : Except Failure Unit}
    (decides : UntilDecides limit pause deadline call.ended call.after value)
    (switches : Switches switch (RaisesOnly Failure.isAssertion) (· = .ok ()) call)
    (ahead : ClockTime.NotBefore switch deadline) :
    value = .ok () ∨ ∃ fault, Refused deadline pause call.after fault ∧ value = .error (.clock fault) := by
  have late := switches.late_of_isOver ahead
  have either := switches.either
  rcases call with ⟨before, ended, after⟩
  cases decides with
  | returned => exact .inl rfl
  | expired _ reached => cases late reached
  | untold _ reached => cases late reached
  | refused _ refused => exact .inr ⟨_, refused, rfl⟩
  | raised _ other =>
      rcases either with raises | succeeds
      · cases other.symm.trans (raises _ rfl)
      · cases succeeds

theorem DuringDecides.exists_failure {limit : Int} {opened pause : T} {value : Except Failure Unit}
    (decides : DuringDecides limit opened pause deadline call.ended call.after value)
    (switches : Switches switch (RaisesOnly Failure.isOrdinary) FailsOrdinarily call)
    (ahead : ClockTime.NotBefore switch deadline) :
    (∃ cause, call.ended = .error cause ∧
      value = .error (breach limit opened (Clocked.now call.after) cause)) ∨
    ∃ fault, Refused deadline pause call.after fault ∧ value = .error (.clock fault) := by
  have late := switches.late_of_isOver ahead
  have either := switches.either
  rcases call with ⟨before, ended, after⟩
  cases ended with
  | ok =>
      cases decides with
      | held reached =>
          rcases late reached with ⟨failure, fails, -⟩
          cases fails
      | refused refused => exact .inr ⟨_, refused, rfl⟩
  | error failure =>
      have ordinary : failure.isOrdinary = true := by
        rcases either with raises | ⟨other, fails, ordinary⟩
        · exact raises failure rfl
        · cases fails
          exact ordinary
      exact .inl ⟨failure, rfl, (duringDecides_iff_of_ordinary ordinary).mp decides⟩

omit [ClockTime.Timely T] in
theorem breaks_breach {limit elapsed : Int} {opened now : T} {cause : Failure}
    (measured : ClockTime.wholeMillis (ClockTime.since now opened) = .ok elapsed)
    (tellable : cause.isTellable = true) : Breaks elapsed limit cause (breach limit opened now cause) := by
  have same : breach limit opened now cause = .brokenWindow elapsed limit cause := by
    simp only [breach, measured, Failure.reportedAs, tellable, if_true]
  rw [same]
  exact breaks elapsed limit cause

end

/-! ## Guards that poll an action -/

def Next.mapEnd {σ α β : Type} (change : Except Failure α → Except Failure β) : Next σ α → Next σ β
  | .again state => .again state
  | .ended value state => .ended (change value) state

def RaisesNoSkip (ended : Except Failure Unit) : Prop := RaisesOnly (fun failure => !failure.isSkip) ended

variable {T A M : Type}

theorem returned_of_proper {failure : Failure} (proper : failure.Proper) :
    Result.returned (.error failure) = .ok (.failed failure) := by
  simp [Result.returned, surfaced, proper.1, proper.2]

theorem returned_of_noSkip {failure : Failure} (noSkip : RaisesNoSkip (.error failure)) :
    Result.returned (.error failure) = surfaced failure := by
  have other : failure.isSkip = false := by simpa using noSkip failure rfl
  simp [Result.returned, other]

variable [ClockTime T]

theorem beforeDeadline_eq (interval : Int) (deadline : T) {value : Except Failure Unit} {final : Result}
    (same : Result.returned value = .ok final) (world : World T A M) :
    beforeDeadline interval deadline final world =
      (untilDeadline interval deadline value world).mapEnd Result.returned := by
  have now : Clocked.now world = world.now := rfl
  simp only [beforeDeadline, untilDeadline, now]
  split
  · simp only [Next.mapEnd, same]
  · cases ClockTime.ofMillis (T := T) interval with
    | ok span => rfl
    | error fault => simp only [Next.mapEnd, returned_of_proper (Failure.proper_clock fault)]

theorem untilNext_returned (limit interval : Int) (deadline : T) {ended : Except Failure Unit}
    (noSkip : RaisesNoSkip ended) (after : World T A M) :
    untilNext limit interval deadline (Result.returned ended) after =
      (untilTurn limit interval deadline ended after).mapEnd Result.returned := by
  cases ended with
  | ok => rfl
  | error failure =>
      have surfaces := returned_of_noSkip noSkip
      have choice : untilNext limit interval deadline (surfaced failure) after =
          if failure.isAssertion then beforeDeadline interval deadline
            (.failed (failure.reportedAs (.notFulfilled limit failure))) after
          else .ended (surfaced failure) after := by
        cases ordinary : failure.isOrdinary <;> simp [surfaced, ordinary, untilNext]
      have proper := returned_of_proper ((Failure.proper_notFulfilled limit failure).reportedAs failure)
      rw [surfaces, choice, beforeDeadline_eq interval deadline proper]
      simp only [untilTurn]
      split
      · rfl
      · simp only [Next.mapEnd, surfaces]

theorem duringNext_returned (limit interval : Int) (opened deadline : T) {ended : Except Failure Unit}
    (noSkip : RaisesNoSkip ended) (after : World T A M) :
    duringNext limit interval opened deadline (Result.returned ended) after =
      (duringTurn limit interval opened deadline ended after).mapEnd Result.returned := by
  cases ended with
  | ok => exact beforeDeadline_eq interval deadline rfl after
  | error failure =>
      have surfaces := returned_of_noSkip noSkip
      have proper := returned_of_proper (proper_breach limit opened after.now failure)
      have now : Clocked.now after = after.now := rfl
      rw [surfaces]
      by_cases ordinary : failure.isOrdinary = true
      · simp [surfaced, duringNext, duringTurn, ordinary, Next.mapEnd, now, proper]
      · simp [surfaced, duringNext, duringTurn, ordinary, Next.mapEnd, surfaces]

omit [ClockTime T] in
/-- Attempts at an action that raises no skip end as the calls of it do. -/
theorem attempts_returned {perform : Effect (World T A M) Unit} {next : Choice T A M}
    {turn : Except Failure Unit → World T A M → Next (World T A M) Unit}
    (same : ∀ {ended}, RaisesNoSkip ended → ∀ after,
      next (Result.returned ended) after = (turn ended after).mapEnd Result.returned)
    (bound : Nat) {world : World T A M}
    (noSkip : EveryCall perform world (Leads turn) (RaisesNoSkip ·.ended)) :
    attempts (tried (Result.ofAction perform) next) bound world =
      (attempts (calling perform turn) bound world).map fun (value, left) =>
        (Result.returned value, left) := by
  induction bound generalizing world with
  | zero => rfl
  | succ bound induction =>
      rw [attempts_succ, attempts_succ, tried, calling, Result.ofAction_eq]
      cases called : perform world with
      | none => rfl
      | some found =>
          rcases found with ⟨ended, after⟩
          have choice := same (noSkip.first called) after
          simp only [Option.map_some, Option.bind_some, choice]
          cases went : turn ended after with
          | ended value left => rfl
          | again later =>
              have linked (second : Call (World T A M)) (next : second.before = later) :
                  Leads turn ⟨world, ended, after⟩ second := by
                rw [Leads, next, went]
              exact induction (noSkip.behind called linked)

theorem evaluate_passthrough (bound : Nat) (perform : Effect (World T A M) Unit) (action : A)
    {rules : List Rule} (plain : ∀ rule ∈ rules, rule = .passthrough) :
    evaluate bound perform action rules = Result.ofAction perform := by
  induction rules with
  | nil => rfl
  | cons rule rest induction =>
      rcases List.forall_mem_cons.mp plain with ⟨rfl, others⟩
      exact induction others

variable {perform : Effect (World T A M) Unit} {world : World T A M} {limit : Nat} {span : T}
  {rest : List Rule}

theorem evaluate_within_returned (measured : ClockTime.ofMillis limit = .ok span) (bound : Nat)
    (action : A) (plain : ∀ rule ∈ rest, rule = .passthrough)
    (noSkip : EveryCall perform world
      (Leads (untilTurn limit world.settings.pollInterval (ClockTime.later world.now span)))
      (RaisesNoSkip ·.ended)) :
    evaluate bound perform action (.within limit :: rest) world =
      (untilAsserted bound limit perform world).map fun (value, left) =>
        (Result.returned value, left) := by
  rw [evaluate_within, evaluate_passthrough bound perform action plain, untilAsserted_eq_attempts measured]
  simp only [repeated, measured]
  exact attempts_returned (untilNext_returned limit _ _) bound noSkip

theorem evaluate_during_returned (measured : ClockTime.ofMillis limit = .ok span) (bound : Nat)
    (action : A) (plain : ∀ rule ∈ rest, rule = .passthrough)
    (noSkip : EveryCall perform world
      (Leads (duringTurn limit world.settings.pollInterval world.now
        (ClockTime.later world.now span))) (RaisesNoSkip ·.ended)) :
    evaluate bound perform action (.during limit :: rest) world =
      (duringWindow bound limit perform world).map fun (value, left) =>
        (Result.returned value, left) := by
  rw [evaluate_during, evaluate_passthrough bound perform action plain, duringWindow_eq_attempts measured]
  simp only [repeated, measured]
  exact attempts_returned (duringNext_returned limit _ _ _) bound noSkip

/-! ## What is seen at the end of a window -/

section

variable {σ : Type} [Clocked σ T] [ClockTime.Timely T] {operation : Effect σ Unit} {start left : σ}
  {millis : Int} {span pause switch : T} {bound : Nat} {value : Except Failure Unit}
  (measured : ClockTime.ofMillis millis = .ok span)
  (paced : Paced (Clocked.pollInterval start) pause)
  (ahead : ClockTime.NotBefore switch (ClockTime.later (Clocked.now start) span))

include measured paced ahead

theorem eq_ok_of_untilAsserted
    (switches : EveryCall operation start
      (Leads (untilTurn millis (Clocked.pollInterval start) (ClockTime.later (Clocked.now start) span)))
      (Switches switch (RaisesOnly Failure.isAssertion) (· = .ok ())))
    (ran : untilAsserted bound millis operation start = some (value, left)) :
    value = .ok () ∨ ∃ fault, Refused (ClockTime.later (Clocked.now start) span) pause left fault ∧
      value = .error (.clock fault) := by
  rw [untilAsserted_eq_attempts measured] at ran
  rcases exists_calls ran with ⟨earlier, last, -, calls, decided⟩
  rcases paced.untilTurn_ended_iff.mp decided with ⟨rfl, decides⟩
  exact decides.eq_ok (switches _ calls last (by simp)) ahead

theorem exists_breach_of_duringWindow
    (switches : EveryCall operation start
      (Leads (duringTurn millis (Clocked.pollInterval start) (Clocked.now start)
        (ClockTime.later (Clocked.now start) span)))
      (Switches switch (RaisesOnly Failure.isOrdinary) FailsOrdinarily))
    (ran : duringWindow bound millis operation start = some (value, left)) :
    (∃ before cause, operation before = some (.error cause, left) ∧
        value = .error (breach millis (Clocked.now start) (Clocked.now left) cause)) ∨
      ∃ fault, Refused (ClockTime.later (Clocked.now start) span) pause left fault ∧
        value = .error (.clock fault) := by
  rw [duringWindow_eq_attempts measured] at ran
  rcases exists_calls ran with ⟨earlier, last, -, calls, decided⟩
  rcases paced.duringTurn_ended_iff.mp decided with ⟨rfl, decides⟩
  rcases decides.exists_failure (switches _ calls last (by simp)) ahead with ⟨cause, fails, same⟩ | refused
  · exact .inl ⟨last.before, cause, fails ▸ calls.made last (by simp), same⟩
  · exact .inr refused

end

theorem not_refused {deadline pause : T} {left : World T A M} {fault : ClockFault} :
    ¬ Refused deadline pause left fault := by
  rintro ⟨-, refused⟩
  cases refused

def turning {σ : Type} [Clocked σ T] (switch : T) (early late : Except Failure Unit) : Effect σ Unit :=
  fun state => some (if ClockTime.less (Clocked.now state) switch then early else late, state)

def slowWorld : World Float Unit (List (Except Failure Unit)) :=
  { secondsWorld [] with settings := { Settings.standard with pollInterval := 80 } }

end Polling

end GuardedSteps
