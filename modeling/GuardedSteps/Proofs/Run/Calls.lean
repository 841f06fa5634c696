import GuardedSteps.Proofs.Clock
import GuardedSteps.Proofs.Run.Attempts
import Mathlib.Data.List.Chain

/-!
The calls of a poll. A poll calls its operation, sleeps and calls it again; the last call decides how
the poll ends. Here the polls of single operations are shown to be rows of such calls, each of which
starts where the sleep behind the one before it ends.
-/

namespace GuardedSteps

namespace Polling

/-! ## Rows of calls -/

/-- One call of an operation, with the states before and after it. -/
structure Call (σ : Type) where
  before : σ
  ended : Except Failure Unit
  after : σ

/-- Calls of an operation from some state on, one after the other, with a link between each of them and
the next. -/
structure Calls {σ : Type} (operation : Effect σ Unit) (start : σ) (link : Call σ → Call σ → Prop)
    (calls : List (Call σ)) : Prop where
  starts : calls.head?.map Call.before = some start
  made : ∀ call ∈ calls, operation call.before = some (call.ended, call.after)
  linked : calls.IsChain link

section

variable {σ : Type} {operation : Effect σ Unit} {link : Call σ → Call σ → Prop} {start : σ}

theorem calls_singleton {ended : Except Failure Unit} {after : σ}
    (called : operation start = some (ended, after)) :
    Calls operation start link [⟨start, ended, after⟩] where
  starts := rfl
  made := List.forall_mem_singleton.mpr called
  linked := .singleton _

theorem Calls.cons {ended : Except Failure Unit} {after later : σ} {rest : List (Call σ)}
    (called : operation start = some (ended, after)) (behind : Calls operation later link rest)
    (linked : ∀ second : Call σ, second.before = later → link ⟨start, ended, after⟩ second) :
    Calls operation start link (⟨start, ended, after⟩ :: rest) where
  starts := rfl
  made := List.forall_mem_cons.mpr ⟨called, behind.made⟩
  linked := by
    cases rest with
    | nil => exact .singleton _
    | cons second rest =>
        have next : second.before = later := Option.some.inj behind.starts
        exact List.isChain_cons_cons.mpr ⟨linked second next, behind.linked⟩

theorem Calls.first {first : Call σ} {rest : List (Call σ)}
    (calls : Calls operation start link (first :: rest)) :
    first.before = start ∧ operation start = some (first.ended, first.after) := by
  have starts : first.before = start := Option.some.inj calls.starts
  exact ⟨starts, starts ▸ calls.made first List.mem_cons_self⟩

theorem Calls.rest {first second : Call σ} {rest : List (Call σ)}
    (calls : Calls operation start link (first :: second :: rest)) :
    link first second ∧ Calls operation second.before link (second :: rest) := by
  have chain := List.isChain_cons_cons.mp calls.linked
  exact ⟨chain.1, rfl, fun call member => calls.made call (List.mem_cons_of_mem first member), chain.2⟩

def calling (operation : Effect σ Unit) (next : Except Failure Unit → σ → Next σ Unit) (state : σ) :
    Option (Next σ Unit) :=
  (operation state).map fun (ended, after) => next ended after

def Leads (next : Except Failure Unit → σ → Next σ Unit) (first second : Call σ) : Prop :=
  next first.ended first.after = .again second.before

section

variable {next : Except Failure Unit → σ → Next σ Unit} {bound : Nat} {value : Except Failure Unit}

theorem exists_calls {left : σ}
    (ran : attempts (calling operation next) bound start = some (value, left)) :
    ∃ earlier last, earlier.length < bound ∧ Calls operation start (Leads next) (earlier ++ [last]) ∧
      next last.ended last.after = .ended value left := by
  induction bound generalizing start with
  | zero => cases ran
  | succ bound induction =>
      rw [attempts_succ, calling] at ran
      cases called : operation start with
      | none =>
          rw [called] at ran
          cases ran
      | some found =>
          rcases found with ⟨ended, after⟩
          rw [called] at ran
          cases turn : next ended after with
          | ended last reached =>
              simp only [Option.map_some, turn, Option.bind_some, Next.followed, Option.some.injEq,
                Prod.mk.injEq] at ran
              rcases ran with ⟨rfl, rfl⟩
              exact ⟨[], ⟨start, ended, after⟩, Nat.succ_pos bound, calls_singleton called, turn⟩
          | again later =>
              simp only [Option.map_some, turn, Option.bind_some, Next.followed] at ran
              rcases induction ran with ⟨earlier, last, few, calls, decided⟩
              refine ⟨⟨start, ended, after⟩ :: earlier, last, Nat.succ_lt_succ few, ?_, decided⟩
              exact .cons called calls fun second same => by rw [Leads, same, turn]

theorem attempts_of_calls {earlier : List (Call σ)} {last : Call σ} {left : σ}
    (few : earlier.length < bound) (calls : Calls operation start (Leads next) (earlier ++ [last]))
    (decided : next last.ended last.after = .ended value left) :
    attempts (calling operation next) bound start = some (value, left) := by
  induction bound generalizing start earlier with
  | zero => exact absurd few (Nat.not_lt_zero _)
  | succ bound induction =>
      rw [attempts_succ, calling]
      cases earlier with
      | nil => simp [calls.first.2, decided, Next.followed]
      | cons first earlier =>
          have called := calls.first.2
          -- Behind the first call there is at least the last one.
          rcases List.exists_cons_of_ne_nil (List.append_ne_nil_of_right_ne_nil earlier
            (List.cons_ne_nil last [])) with ⟨second, others, split⟩
          rw [List.cons_append, split] at calls
          rcases calls.rest with ⟨again, behind⟩
          rw [← split] at behind
          have later := induction (Nat.lt_of_succ_lt_succ few) behind
          simp only [called, Option.map_some, Option.bind_some]
          rw [again]
          exact later

/-- A row of attempts at an operation that ends is a row of calls of which the last one decides. -/
theorem attempts_eq_some_iff {left : σ} :
    attempts (calling operation next) bound start = some (value, left) ↔
      ∃ earlier last, earlier.length < bound ∧ Calls operation start (Leads next) (earlier ++ [last]) ∧
        next last.ended last.after = .ended value left := by
  refine ⟨exists_calls, ?_⟩
  rintro ⟨earlier, last, few, calls, decided⟩
  exact attempts_of_calls few calls decided

end

end

/-! ## What follows a call -/

variable {σ T : Type} [ClockTime T] [Clocked σ T]

/-- Before the deadline there is another call after a pause; otherwise the poll ends. -/
def untilDeadline (interval : Int) (deadline : T) (final : Except Failure Unit) (state : σ) :
    Next σ Unit :=
  let remaining := ClockTime.since deadline (Clocked.now state)
  if ClockTime.isOver remaining then .ended final state
  else
    match ClockTime.ofMillis interval with
    | .error fault => .ended (.error (.clock fault)) state
    | .ok span =>
      match Clocked.sleep (ClockTime.lesser span remaining) state with
      | .ok later => .again later
      | .error fault => .ended (.error (.clock fault)) state

/-- What follows a call of a poll that waits for its operation to succeed. -/
def untilTurn (millis interval : Int) (deadline : T) : Except Failure Unit → σ → Next σ Unit
  | .ok (), after => .ended (.ok ()) after
  | .error failure, after =>
    if failure.isAssertion then
      untilDeadline interval deadline (.error (failure.reportedAs (.notFulfilled millis failure))) after
    else .ended (.error failure) after

def duringTurn (millis interval : Int) (opened deadline : T) : Except Failure Unit → σ → Next σ Unit
  | .ok (), after => untilDeadline interval deadline (.ok ()) after
  | .error failure, after =>
    if failure.isOrdinary then .ended (.error (breach millis opened (Clocked.now after) failure)) after
    else .ended (.error failure) after

theorem followed_untilDeadline (interval : Int) (deadline : T) (final : Except Failure Unit)
    (row : Effect σ Unit) (state : σ) : (untilDeadline interval deadline final state).followed row =
      if ClockTime.isOver (ClockTime.since deadline (Clocked.now state)) then some (final, state)
      else pause interval (ClockTime.since deadline (Clocked.now state)) row state := by
  simp only [untilDeadline, pause]
  split
  · rfl
  · cases ClockTime.ofMillis (T := T) interval with
    | error fault => rfl
    | ok span =>
        simp only
        cases Clocked.sleep (ClockTime.lesser span (ClockTime.since deadline (Clocked.now state)))
            state with
        | ok later => rfl
        | error fault => rfl

/-- A way of going on that looks at the deadline whenever it goes on. -/
def Heeds (interval : Int) (deadline : T) (next : Except Failure Unit → σ → Next σ Unit) : Prop :=
  ∀ ended after later, next ended after = .again later →
    ∃ final, untilDeadline interval deadline final after = .again later

theorem heeds_untilTurn (millis interval : Int) (deadline : T) :
    Heeds interval deadline (untilTurn (σ := σ) millis interval deadline) := by
  intro ended after later again
  cases ended with
  | ok => cases again
  | error failure =>
      simp only [untilTurn] at again
      split at again
      · exact ⟨_, again⟩
      · cases again

theorem heeds_duringTurn (millis interval : Int) (opened deadline : T) :
    Heeds interval deadline (duringTurn (σ := σ) millis interval opened deadline) := by
  intro ended after later again
  cases ended with
  | ok => exact ⟨_, again⟩
  | error failure =>
      simp only [duringTurn] at again
      split at again
      · cases again
      · cases again

/-- The loop that waits for an operation to succeed is a row of attempts at it. -/
theorem untilLoop_eq (operation : Effect σ Unit) (millis interval : Int) (deadline : T) (bound : Nat) :
    untilLoop operation millis interval deadline bound =
      attempts (calling operation (untilTurn millis interval deadline)) bound := by
  induction bound with
  | zero => rfl
  | succ bound induction =>
      funext state
      rw [attempts_succ, calling]
      cases called : operation state with
      | none => simp [untilLoop, called]
      | some found =>
          rcases found with ⟨ended, after⟩
          simp only [untilLoop, called, Option.map_some, Option.bind_some]
          cases ended with
          | ok => rfl
          | error failure =>
              by_cases assertion : failure.isAssertion = true
              · simp only [assertion, if_true, untilTurn]
                rw [followed_untilDeadline, induction]
              · simp [assertion, untilTurn, Next.followed]

theorem duringLoop_eq (operation : Effect σ Unit) (millis interval : Int) (opened deadline : T)
    (bound : Nat) : duringLoop operation millis interval opened deadline bound =
      attempts (calling operation (duringTurn millis interval opened deadline)) bound := by
  induction bound with
  | zero => rfl
  | succ bound induction =>
      funext state
      rw [attempts_succ, calling]
      cases called : operation state with
      | none => simp [duringLoop, called]
      | some found =>
          rcases found with ⟨ended, after⟩
          simp only [duringLoop, called, Option.map_some, Option.bind_some]
          cases ended with
          | ok =>
              simp only [duringTurn]
              rw [followed_untilDeadline, induction]
          | error failure =>
              by_cases ordinary : failure.isOrdinary = true
              · simp only [ordinary, if_true, duringTurn, Next.followed, broken, breach]
                cases ClockTime.wholeMillis (ClockTime.since (Clocked.now after) opened) with
                | ok elapsed => rfl
                | error fault => rfl
              · simp [ordinary, duringTurn, Next.followed]

section

variable {limit : Int} {span : T} (measured : ClockTime.ofMillis limit = .ok span)

include measured

theorem untilAsserted_eq_attempts (operation : Effect σ Unit) (bound : Nat) (start : σ) :
    untilAsserted bound limit operation start = attempts (calling operation
      (untilTurn limit (Clocked.pollInterval start) (ClockTime.later (Clocked.now start) span)))
        bound start := by
  simp only [untilAsserted, withDeadline, measured, untilLoop_eq]

theorem duringWindow_eq_attempts (operation : Effect σ Unit) (bound : Nat) (start : σ) :
    duringWindow bound limit operation start = attempts (calling operation
      (duringTurn limit (Clocked.pollInterval start) (Clocked.now start)
        (ClockTime.later (Clocked.now start) span))) bound start := by
  simp only [duringWindow, withDeadline, measured, duringLoop_eq]

end

/-! ## Sleeps between calls -/

class KeepsTime (σ : Type) {T : outParam Type} [ClockTime T] [Clocked σ T] : Prop where
  now_sleep : ∀ {span : T} {state later : σ}, Clocked.sleep span state = .ok later →
    Clocked.now later = ClockTime.later (Clocked.now state) span

instance {A M : Type} : KeepsTime (World T A M) where
  now_sleep slept := by
    cases slept
    rfl

/-- There is time left before the deadline, and what passes is one sleep for the pause between two
calls, or for the time left if that is less. Something remains of the span of this sleep. -/
structure Rested (deadline pause : T) (before after : σ) : Prop where
  early : ClockTime.isOver (ClockTime.since deadline (Clocked.now before)) = false
  slept : Clocked.sleep
    (ClockTime.lesser pause (ClockTime.since deadline (Clocked.now before))) before = .ok after
  lasting : ClockTime.isOver
    (ClockTime.lesser pause (ClockTime.since deadline (Clocked.now before))) = false

/-- There is time left before the deadline, but the platform refuses the sleep. -/
structure Refused (deadline pause : T) (state : σ) (fault : ClockFault) : Prop where
  early : ClockTime.isOver (ClockTime.since deadline (Clocked.now state)) = false
  refused : Clocked.sleep
    (ClockTime.lesser pause (ClockTime.since deadline (Clocked.now state))) state = .error fault

/-- A positive number of milliseconds that the clock can measure. -/
structure Paced (interval : Int) (pause : T) : Prop where
  positive : 0 < interval
  measured : ClockTime.ofMillis interval = .ok pause

section

variable {interval : Int} {deadline pause : T} (paced : Paced interval pause)
  {final value : Except Failure Unit} {state later left : σ}

include paced

theorem Paced.untilDeadline_eq : untilDeadline interval deadline final state =
    if ClockTime.isOver (ClockTime.since deadline (Clocked.now state)) then .ended final state
    else match Clocked.sleep
        (ClockTime.lesser pause (ClockTime.since deadline (Clocked.now state))) state with
      | .ok later => .again later
      | .error fault => .ended (.error (.clock fault)) state := by
  simp only [untilDeadline, paced.measured]

/-- A poll goes on only while there is time left before the deadline, and after one sleep. -/
theorem Paced.untilDeadline_again_iff [ClockTime.Lasting T] :
    untilDeadline interval deadline final state = .again later ↔
      Rested deadline pause state later := by
  have lasts := ClockTime.Lasting.lasting paced.positive paced.measured
  rw [paced.untilDeadline_eq]
  cases reached : ClockTime.isOver (ClockTime.since deadline (Clocked.now state)) with
  | true =>
      constructor
      · nofun
      · intro rested
        cases reached.symm.trans rested.early
  | false =>
      rw [if_neg Bool.false_ne_true]
      constructor
      · intro again
        split at again
        · next slept =>
          cases again
          exact ⟨reached, slept, ClockTime.isOver_lesser lasts reached⟩
        · cases again
      · intro rested
        rw [rested.slept]

theorem Paced.untilDeadline_ended_iff : untilDeadline interval deadline final state = .ended value left ↔
    left = state ∧
      (ClockTime.isOver (ClockTime.since deadline (Clocked.now state)) = true ∧ value = final ∨
        ∃ fault, Refused deadline pause state fault ∧ value = .error (.clock fault)) := by
  rw [paced.untilDeadline_eq]
  cases reached : ClockTime.isOver (ClockTime.since deadline (Clocked.now state)) with
  | true =>
      rw [if_pos rfl]
      constructor
      · rintro ⟨⟩
        exact ⟨rfl, .inl ⟨rfl, rfl⟩⟩
      · rintro ⟨rfl, ⟨-, rfl⟩ | ⟨fault, refused, -⟩⟩
        · rfl
        · cases reached.symm.trans refused.early
  | false =>
      rw [if_neg Bool.false_ne_true]
      constructor
      · intro ends
        split at ends
        · cases ends
        · next fault slept =>
          cases ends
          exact ⟨rfl, .inr ⟨fault, ⟨reached, slept⟩, rfl⟩⟩
      · rintro ⟨rfl, ⟨late, -⟩ | ⟨fault, refused, rfl⟩⟩
        · cases late
        · rw [refused.refused]

theorem Paced.now_eq [KeepsTime σ] {next : Except Failure Unit → σ → Next σ Unit}
    (heeds : Heeds interval deadline next) {ended : Except Failure Unit} {after : σ}
    (again : next ended after = .again later) :
    let remaining := ClockTime.since deadline (Clocked.now after)
    ClockTime.isOver remaining = false ∧
      Clocked.now later = ClockTime.later (Clocked.now after) (ClockTime.lesser pause remaining) := by
  rcases heeds ended after later again with ⟨final, waits⟩
  rw [paced.untilDeadline_eq] at waits
  split at waits
  · cases waits
  · next remains =>
    split at waits
    · next slept =>
      cases waits
      exact ⟨Bool.eq_false_iff.mpr remains, KeepsTime.now_sleep slept⟩
    · cases waits

end

end Polling

end GuardedSteps
