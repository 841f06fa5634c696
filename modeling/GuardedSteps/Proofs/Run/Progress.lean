import GuardedSteps.Proofs.Run.Calls
import GuardedSteps.Proofs.Run.Skip
import Mathlib.Algebra.Order.Archimedean.Basic
import Mathlib.Data.Rat.Floor
import Mathlib.Tactic.Linarith
import Mathlib.Tactic.NormNum

/-!
How often a poll calls its operation. If every sleep before the deadline reaches it or brings the clock
some fixed step further, a poll comes to an end, and the number of its calls is bounded by the steps in
the time that is left behind the first one. Time that the operation takes only makes the calls fewer.
-/

namespace GuardedSteps

namespace Polling

/-! ## Rows that end a poll -/

section

variable {σ : Type} {operation : Effect σ Unit} {next : Except Failure Unit → σ → Next σ Unit}
  {start : σ}

/-- All calls that a poll makes of its operation: it ends with the last of them as soon as the bound
allows for all of them, and not before. -/
structure AllCalls (poll : (bound : Nat) → Effect σ Unit) (operation : Effect σ Unit)
    (next : Except Failure Unit → σ → Next σ Unit) (start : σ) (calls : List (Call σ))
    (value : Except Failure Unit) (left : σ) : Prop where
  made : Calls operation start (Leads next) calls
  ends : ∀ bound, poll bound start = if calls.length ≤ bound then some (value, left) else none

theorem allCalls_singleton {ended value : Except Failure Unit} {after left : σ}
    (called : operation start = some (ended, after)) (final : next ended after = .ended value left) :
    AllCalls (attempts (calling operation next)) operation next start [⟨start, ended, after⟩]
      value left where
  made := calls_singleton called
  ends bound := by
    cases bound with
    | zero => rfl
    | succ bound => simp [attempts_succ, calling, called, final, Next.followed]

theorem AllCalls.cons {ended value : Except Failure Unit} {after later left : σ} {calls : List (Call σ)}
    (called : operation start = some (ended, after)) (again : next ended after = .again later)
    (behind : AllCalls (attempts (calling operation next)) operation next later calls value left) :
    AllCalls (attempts (calling operation next)) operation next start (⟨start, ended, after⟩ :: calls)
      value left where
  made := .cons called behind.made fun second same => by rw [Leads, same, again]
  ends bound := by
    cases bound with
    | zero => rfl
    | succ bound =>
        simp only [attempts_succ, calling, called, Option.map_some, again, Option.bind_some,
          Next.followed, behind.ends bound, List.length_cons, Nat.succ_le_succ_iff]

theorem exists_allCalls_of_behind (ends : ∃ ended after, operation start = some (ended, after))
    (behind : ∀ {ended after later}, operation start = some (ended, after) →
      next ended after = .again later →
      ∃ calls value left,
        AllCalls (attempts (calling operation next)) operation next later calls value left) :
    ∃ calls value left,
      AllCalls (attempts (calling operation next)) operation next start calls value left := by
  rcases ends with ⟨ended, after, called⟩
  cases turn : next ended after with
  | ended value left => exact ⟨_, value, left, allCalls_singleton called turn⟩
  | again later =>
      rcases behind called turn with ⟨calls, value, left, others⟩
      exact ⟨_, value, left, others.cons called turn⟩

end

/-! ## Clocks on which every sleep counts -/

variable {σ T K : Type} [ClockTime T] [Clocked σ T]

variable [Field K] [LinearOrder K]

/-- From a reading before the deadline the clock comes to the deadline, or some step nearer to it. -/
def Nears (seconds : T → K) (deadline : T) (step : K) (before after : T) : Prop :=
  seconds before < seconds deadline ∧
    (seconds deadline ≤ seconds after ∨ seconds before + step ≤ seconds after)

/-- From an opening reading on, a sleep before the deadline nears it. The sleep is for a pause, or for
the time left if that is less, and at the deadline there is no time left. -/
structure Progresses (seconds : T → K) (opened deadline pause : T) (step : K) : Prop where
  positive : 0 < step
  ends : ∀ reading, seconds deadline ≤ seconds reading →
    ClockTime.isOver (ClockTime.since deadline reading) = true
  nears : ∀ reading, seconds opened ≤ seconds reading → seconds reading < seconds deadline →
    Nears seconds deadline step reading
      (ClockTime.later reading (ClockTime.lesser pause (ClockTime.since deadline reading)))

theorem progresses_int {opened deadline pause : Int} (positive : 0 < pause) :
    Progresses (fun reading : Int => (reading : ℚ)) opened deadline pause (pause : ℚ) where
  positive := Int.cast_pos.mpr positive
  ends reading reached := by
    have there := Int.cast_le.mp reached
    change decide (deadline - reading ≤ 0) = true
    exact decide_eq_true (by omega)
  nears reading _ before := by
    refine ⟨before, ?_⟩
    simp only [← Int.cast_add, Int.cast_le]
    change deadline ≤ reading + ClockTime.lesser pause (deadline - reading) ∨
      reading + pause ≤ reading + ClockTime.lesser pause (deadline - reading)
    unfold ClockTime.lesser
    split
    · exact .inl (by omega)
    · exact .inr (by omega)

structure Forward (operation : Effect σ Unit) (seconds : T → K) : Prop where
  ends : ∀ state, ∃ ended after, operation state = some (ended, after)
  onward : ∀ {state ended after}, operation state = some (ended, after) →
    seconds (Clocked.now state) ≤ seconds (Clocked.now after)

section

variable {seconds : T → K} {deadline : T} {step : K}

omit [ClockTime T] in
theorem Nears.of_le {before after other : T} (nears : Nears seconds deadline step before after)
    (onward : seconds after ≤ seconds other) : Nears seconds deadline step before other := by
  rcases nears with ⟨early, reached | further⟩
  · exact ⟨early, .inl (reached.trans onward)⟩
  · exact ⟨early, .inr (further.trans onward)⟩

omit [ClockTime T] in
/-- Only so many readings fit before a deadline, by induction on the readings. One more may be at the
deadline, and the first one does not take a step. -/
theorem length_le_of_nears [IsStrictOrderedRing K] (positive : 0 < step) {first : T} {rest : List T}
    (nears : (first :: rest).IsChain (Nears seconds deadline step)) {most : K} (nonneg : 0 ≤ most)
    (left : seconds deadline - seconds first ≤ most) :
    ((first :: rest).length : K) ≤ most / step + 2 := by
  have several : 0 ≤ most / step := div_nonneg nonneg positive.le
  induction rest generalizing first most with
  | nil =>
      rw [List.length_singleton, Nat.cast_one]
      linarith
  | cons second rest induction =>
      rcases List.isChain_cons_cons.mp nears with ⟨⟨early, nearer⟩, behind⟩
      by_cases reached : seconds deadline ≤ seconds second
      · cases rest with
        | nil =>
            rw [List.length_cons, List.length_singleton, Nat.cast_add, Nat.cast_one]
            linarith
        | cons third rest =>
            have before := (List.isChain_cons_cons.mp behind).1.1
            exact absurd reached (not_le.mpr before)
      · have further := nearer.resolve_left reached
        have before := not_le.mp reached
        have remains : 0 ≤ most - step := by linarith
        have fewer := induction behind remains (by linarith) (div_nonneg remains positive.le)
        rw [sub_div, div_self positive.ne'] at fewer
        rw [List.length_cons, Nat.cast_succ]
        linarith

end

/-! ## One call after the other -/

section

variable {operation : Effect σ Unit} {next : Except Failure Unit → σ → Next σ Unit} {start : σ}
  {interval : Int} {opened deadline pause : T} {seconds : T → K} {step : K}
  (progresses : Progresses seconds opened deadline pause step) (forward : Forward operation seconds)
  (paced : Paced interval pause) (heeds : Heeds interval deadline next)
  (onward : seconds opened ≤ seconds (Clocked.now start))

include progresses forward paced heeds onward

theorem Progresses.nears_again [KeepsTime σ] {ended : Except Failure Unit} {after later : σ}
    (called : operation start = some (ended, after)) (again : next ended after = .again later) :
    Nears seconds deadline step (Clocked.now after) (Clocked.now later) := by
  rcases paced.now_eq heeds again with ⟨remains, slept⟩
  have early : seconds (Clocked.now after) < seconds deadline := by
    by_contra reached
    cases remains.symm.trans (progresses.ends _ (not_lt.mp reached))
  rw [slept]
  exact progresses.nears _ (onward.trans (forward.onward called)) early

variable [IsStrictOrderedRing K] [KeepsTime σ]

theorem Progresses.onward_again {ended : Except Failure Unit} {after later : σ}
    (called : operation start = some (ended, after)) (again : next ended after = .again later) :
    seconds opened ≤ seconds (Clocked.now later) := by
  have went := onward.trans (forward.onward called)
  rcases progresses.nears_again forward paced heeds onward called again with ⟨early, reached | further⟩
  · exact went.trans (early.le.trans reached)
  · have positive := progresses.positive
    linarith

theorem Progresses.nears_calls {calls : List (Call σ)} (made : Calls operation start (Leads next) calls) :
    (calls.map (Clocked.now ·.after)).IsChain (Nears seconds deadline step) := by
  induction calls generalizing start with
  | nil => exact .nil
  | cons first rest induction =>
      cases rest with
      | nil => exact .singleton _
      | cons second rest =>
          have called := made.first.2
          rcases made.rest with ⟨again, behind⟩
          have nears := progresses.nears_again forward paced heeds onward called again
          have later := progresses.onward_again forward paced heeds onward called again
          exact List.isChain_cons_cons.mpr
            ⟨nears.of_le (forward.onward behind.first.2), induction later behind⟩

/-- A poll ends, by induction on the number of steps that there are to the deadline. -/
theorem Progresses.exists_allCalls (steps : Nat)
    (near : seconds deadline - seconds (Clocked.now start) ≤ steps * step) :
    ∃ calls value left,
      AllCalls (attempts (calling operation next)) operation next start calls value left := by
  induction steps generalizing start with
  | zero =>
      apply exists_allCalls_of_behind (forward.ends start)
      intro ended after later called again
      have waited := forward.onward called
      have early := (progresses.nears_again forward paced heeds onward called again).1
      rw [Nat.cast_zero, zero_mul] at near
      linarith
  | succ steps induction =>
      apply exists_allCalls_of_behind (forward.ends start)
      intro ended after later called again
      have waited := forward.onward called
      apply induction (progresses.onward_again forward paced heeds onward called again)
      rcases (progresses.nears_again forward paced heeds onward called again).2 with reached | further
      · have several : 0 ≤ (steps : K) * step := mul_nonneg (Nat.cast_nonneg steps) progresses.positive.le
        linarith
      · rw [Nat.cast_succ, add_mul, one_mul] at near
        linarith

end

/-! ## The end of a poll -/

/-- A poll comes to an end. If there is never more than some time left behind a call, the poll makes at
most as many calls as there are steps in this time, and two. -/
def EndsInTime (seconds : T → K) (deadline : T) (step : K) (poll : (bound : Nat) → Effect σ Unit)
    (operation : Effect σ Unit) (next : Except Failure Unit → σ → Next σ Unit) (start : σ) : Prop :=
  ∃ calls value left, AllCalls poll operation next start calls value left ∧
    ∀ most, 0 ≤ most →
      (∀ call ∈ calls, seconds deadline - seconds (Clocked.now call.after) ≤ most) →
      (calls.length : K) ≤ most / step + 2

section

variable {operation : Effect σ Unit} {start : σ} {pause : T} {seconds : T → K} {step : K}

omit [ClockTime T] in
theorem EndsInTime.congr {next : Except Failure Unit → σ → Next σ Unit} {deadline : T}
    {poll other : (bound : Nat) → Effect σ Unit}
    (ends : EndsInTime seconds deadline step poll operation next start)
    (same : ∀ bound, other bound start = poll bound start) :
    EndsInTime seconds deadline step other operation next start := by
  rcases ends with ⟨calls, value, left, all, few⟩
  exact ⟨calls, value, left, ⟨all.made, fun bound => (same bound).trans (all.ends bound)⟩, few⟩

variable [IsStrictOrderedRing K] [KeepsTime σ] [Archimedean K]

theorem Progresses.endsInTime {next : Except Failure Unit → σ → Next σ Unit} {interval : Int}
    {opened deadline : T} (progresses : Progresses seconds opened deadline pause step)
    (forward : Forward operation seconds) (paced : Paced interval pause)
    (heeds : Heeds interval deadline next) (onward : seconds opened ≤ seconds (Clocked.now start)) :
    EndsInTime seconds deadline step (attempts (calling operation next)) operation next start := by
  have positive := progresses.positive
  rcases exists_nat_ge ((seconds deadline - seconds (Clocked.now start)) / step) with ⟨steps, many⟩
  rw [div_le_iff₀ positive] at many
  rcases progresses.exists_allCalls forward paced heeds onward steps many with ⟨calls, value, left, all⟩
  refine ⟨calls, value, left, all, fun most nonneg near => ?_⟩
  have nears := progresses.nears_calls forward paced heeds onward all.made
  cases calls with
  | nil => cases all.made.starts
  | cons first rest =>
      simpa using length_le_of_nears positive nears nonneg (near first List.mem_cons_self)

/-- Both polls come to an end if a sleep before the deadline always reaches it or brings the clock some
step further, and if the operation always ends and does not move the clock back. If there is never more
than some time left behind a call, neither calls the operation more often than there are steps in this
time, and two more times. -/
theorem polls_end {limit : Int} {span : T} (measured : ClockTime.ofMillis limit = .ok span)
    (paced : Paced (Clocked.pollInterval start) pause) (forward : Forward operation seconds)
    (progresses : Progresses seconds (Clocked.now start)
      (ClockTime.later (Clocked.now start) span) pause step) :
    let interval := Clocked.pollInterval start
    let opened := Clocked.now start
    let deadline := ClockTime.later opened span
    EndsInTime seconds deadline step (fun bound => untilAsserted bound limit operation) operation
        (untilTurn limit interval deadline) start ∧
      EndsInTime seconds deadline step (fun bound => duringWindow bound limit operation) operation
        (duringTurn limit interval opened deadline) start := by
  intro interval opened deadline
  constructor
  · have heeds := heeds_untilTurn (σ := σ) limit interval deadline
    exact (progresses.endsInTime forward paced heeds le_rfl).congr fun bound =>
      untilAsserted_eq_attempts measured operation bound start
  · have heeds := heeds_duringTurn (σ := σ) limit interval opened deadline
    exact (progresses.endsInTime forward paced heeds le_rfl).congr fun bound =>
      duringWindow_eq_attempts measured operation bound start

end

def toiling : Effect (World Int Unit (List Int)) Unit := fun world =>
  some (.error (.raised .assertionError none), { world with now := world.now + 3 })

theorem polls_end_toiling :
    let seconds := fun reading : Int => (reading : ℚ)
    EndsInTime seconds 50 10 (fun bound => untilAsserted bound 50 toiling) toiling
        (untilTurn 50 10 50) startingWorld ∧
      EndsInTime seconds 50 10 (fun bound => duringWindow bound 50 toiling) toiling
        (duringTurn 50 10 0 50) startingWorld := by
  intro seconds
  have paced : Paced 10 (10 : Int) := ⟨by decide, rfl⟩
  have forward : Forward toiling seconds := by
    refine ⟨fun state => ⟨_, _, rfl⟩, fun {state ended after} called => ?_⟩
    cases called
    exact Int.cast_le.mpr (by change state.now ≤ state.now + 3; omega)
  have progresses : Progresses seconds (Clocked.now startingWorld)
      (ClockTime.later (Clocked.now startingWorld) 50) 10 10 := progresses_int (by decide)
  have measured : ClockTime.ofMillis 50 = .ok (50 : Int) := rfl
  exact polls_end measured paced forward progresses

end Polling

end GuardedSteps
