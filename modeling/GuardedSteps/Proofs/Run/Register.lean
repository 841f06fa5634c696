import GuardedSteps.Proofs.Clock
import GuardedSteps.Proofs.Run.Chronicle
import Mathlib.Data.List.Nodup

/-!
The register of delays. A world knows which delays are pending, which have been cancelled and which steps
are waiting behind them. Each occurrence of a chronicle changes this register in its own way, and so the
delays that are pending are at all times those that have been started and neither been cancelled since
then nor woken up.
-/

namespace GuardedSteps

/-- The delays of a world, by their serial numbers. -/
structure Register where
  pending : List Nat
  stopped : List Nat
  waiting : List Nat
  next : Nat
  deriving DecidableEq

variable {T A M : Type}

def World.register (world : World T A M) : Register :=
  ⟨world.pending, world.stopped, world.waiting.map (·.serial), world.nextSerial⟩

namespace Register

/-! ## Changes -/

def started (register : Register) : Register :=
  { register with
    pending := register.pending ++ [register.next]
    waiting := register.waiting ++ [register.next]
    next := register.next + 1 }

def cancelled (register : Register) : Register :=
  { register with pending := [], stopped := register.stopped ++ register.pending }

def taken (serial : Nat) (register : Register) : Register :=
  { register with
    pending := register.pending.filter (· != serial)
    waiting := register.waiting.filter (· != serial) }

theorem register_delay (world : World T A M) (millis : Nat) (rules : List Rule) (action : A) :
    (world.delay millis rules action).register = world.register.started := by
  simp [World.register, World.delay, started]

theorem register_taken (serial : Nat) (world : World T A M) :
    (world.taken serial).register = world.register.taken serial := by
  simp [World.register, World.taken, World.release, taken, List.filter_map, Function.comp_def]

/-- A delayed step runs: it has been started, it does not wait any longer, and it was not cancelled. -/
structure Runs (register : Register) (serial : Nat) : Prop where
  started : serial < register.next
  woken : serial ∉ register.waiting
  unstopped : serial ∉ register.stopped

/-- What one occurrence makes of a register. -/
inductive Step : Register → Occurrence A → Register → Prop
  | started (register : Register) : Step register (.started register.next) register.started
  | cancelled (register : Register) : Step register .cancelled register.cancelled
  | dropped {register : Register} {serial : Nat} (waits : serial ∈ register.waiting)
      (stopped : serial ∈ register.stopped) : Step register (.dropped serial) (register.taken serial)
  | entered {register : Register} {serial : Nat} (waits : serial ∈ register.waiting)
      (unstopped : serial ∉ register.stopped) : Step register (.entered serial) (register.taken serial)
  | called {register : Register} {thread : Option Nat} (action : A)
      (runs : ∀ serial ∈ thread, register.Runs serial) : Step register (.called thread action) register

/-- What a chronicle makes of a register. -/
inductive Path : Register → List (Occurrence A) → Register → Prop
  | nil (register : Register) : Path register [] register
  | cons {first second third : Register} {occurrence : Occurrence A} {later : List (Occurrence A)}
      (step : Step first occurrence second) (path : Path second later third) :
      Path first (occurrence :: later) third

theorem Path.append {first second third : Register} {past later : List (Occurrence A)}
    (path : Path first past second) (others : Path second later third) :
    Path first (past ++ later) third := by
  induction path with
  | nil => exact others
  | cons step path induction => exact .cons step (induction others)

theorem Path.split {first third : Register} {past later : List (Occurrence A)}
    (path : Path first (past ++ later) third) :
    ∃ second, Path first past second ∧ Path second later third := by
  induction past generalizing first with
  | nil => exact ⟨first, .nil first, path⟩
  | cons occurrence past induction =>
      cases path with
      | cons step path =>
          rcases induction path with ⟨second, own, others⟩
          exact ⟨second, .cons step own, others⟩

/-! ## Exact registers -/

/-- The delays that are pending are those of the steps that wait and have not been cancelled. -/
structure Exact (register : Register) : Prop where
  pending : register.pending = register.waiting.filter (!register.stopped.contains ·)
  distinct : register.waiting.Nodup
  waiting_lt : ∀ serial ∈ register.waiting, serial < register.next
  stopped_lt : ∀ serial ∈ register.stopped, serial < register.next

theorem Exact.mem_pending_iff {register : Register} (exact : register.Exact) {serial : Nat} :
    serial ∈ register.pending ↔ serial ∈ register.waiting ∧ serial ∉ register.stopped := by
  rw [exact.pending, List.mem_filter]
  simp

theorem Exact.nodup_pending {register : Register} (exact : register.Exact) : register.pending.Nodup := by
  rw [exact.pending]
  exact exact.distinct.filter _

theorem Step.exact {first second : Register} {occurrence : Occurrence A} (exact : first.Exact)
    (step : Step first occurrence second) : second.Exact := by
  have taken (serial : Nat) : (first.taken serial).Exact := by
    refine ⟨?_, exact.distinct.filter _, fun other member => ?_, exact.stopped_lt⟩
    · simp only [Register.taken, exact.pending, List.filter_filter, Bool.and_comm]
    · exact exact.waiting_lt other (List.mem_filter.mp member).1
  cases step with
  | started =>
      have fresh : first.next ∉ first.waiting := fun member => Nat.lt_irrefl _ (exact.waiting_lt _ member)
      have unstopped : first.next ∉ first.stopped := fun member => Nat.lt_irrefl _ (exact.stopped_lt _ member)
      refine ⟨?_, ?_, fun serial member => ?_, fun serial member => ?_⟩
      · simp [Register.started, exact.pending, unstopped]
      · refine List.nodup_append.mpr ⟨exact.distinct, List.pairwise_singleton _ _, ?_⟩
        rintro serial old other new rfl
        exact fresh (List.mem_singleton.mp new ▸ old)
      · rcases List.mem_append.mp member with old | new
        · exact Nat.lt_succ_of_lt (exact.waiting_lt serial old)
        · cases List.mem_singleton.mp new
          exact Nat.lt_succ_self _
      · exact Nat.lt_succ_of_lt (exact.stopped_lt serial member)
  | cancelled =>
      refine ⟨?_, exact.distinct, exact.waiting_lt, fun serial member => ?_⟩
      · symm
        simp only [Register.cancelled, List.filter_eq_nil_iff]
        intro serial waits
        by_cases stopped : serial ∈ first.stopped
        · simp [stopped]
        · simp [exact.mem_pending_iff.mpr ⟨waits, stopped⟩]
      · rcases List.mem_append.mp member with old | pending
        · exact exact.stopped_lt serial old
        · exact exact.waiting_lt serial (exact.mem_pending_iff.mp pending).1
  | dropped => exact taken _
  | entered => exact taken _
  | called => exact exact

theorem Path.exact {first second : Register} {past : List (Occurrence A)} (path : Path first past second)
    (exact : first.Exact) : second.Exact := by
  induction path with
  | nil => exact exact
  | cons step path induction => exact induction (step.exact exact)

theorem Step.runs {first second : Register} {occurrence : Occurrence A} (exact : first.Exact)
    (step : Step first occurrence second) {serial : Nat} (runs : first.Runs serial) :
    second.Runs serial := by
  have taken (other : Nat) : (first.taken other).Runs serial :=
    ⟨runs.started, fun member => runs.woken (List.mem_filter.mp member).1, runs.unstopped⟩
  cases step with
  | started =>
      refine ⟨Nat.lt_succ_of_lt runs.started, fun member => ?_, runs.unstopped⟩
      rcases List.mem_append.mp member with old | new
      · exact runs.woken old
      · exact Nat.ne_of_lt runs.started (List.mem_singleton.mp new)
  | cancelled =>
      refine ⟨runs.started, runs.woken, fun member => ?_⟩
      rcases List.mem_append.mp member with old | pending
      · exact runs.unstopped old
      · exact runs.woken (exact.mem_pending_iff.mp pending).1
  | dropped => exact taken _
  | entered => exact taken _
  | called => exact runs

theorem Path.runs {first second : Register} {past : List (Occurrence A)} (path : Path first past second)
    (exact : first.Exact) {serial : Nat} (runs : first.Runs serial) : second.Runs serial := by
  induction path with
  | nil => exact runs
  | cons step path induction => exact induction (step.exact exact) (step.runs exact runs)

end Register

/-! ## Worlds that follow their chronicles -/

/-- What an action does to the delays of a world is what is said of it, wherever it is called. -/
def Actions.Lawful (actions : Actions T A M)
    (own : Option Nat → A → World T A M → List (Occurrence A)) : Prop :=
  ∀ thread action world ended after, world.register.Exact →
    (∀ serial ∈ thread, world.register.Runs serial) →
      actions.perform action world = some (ended, after) →
        Register.Path world.register (own thread action world) after.register

section

variable {actions : Actions T A M} {own : Option Nat → A → World T A M → List (Occurrence A)}

theorem Actions.Lawful.follows (lawful : actions.Lawful own) :
    Follows actions own fun thread world past after => world.register.Exact →
      (∀ serial ∈ thread, world.register.Runs serial) →
        Register.Path world.register past after.register where
  idle _ world _ _ _ _ _ := .nil world.register
  append first second exact runs := by
    have path := first exact runs
    exact path.append (second (path.exact exact) fun serial member => path.runs exact (runs serial member))
  started _ world millis rules action _ _ := by
    rw [Register.register_delay]
    exact .cons (.started _) (.nil _)
  cancelled _ world _ _ := .cons (.cancelled _) (.nil _)
  dropped waits stopped _ _ := by
    rw [Register.register_taken]
    exact .cons (.dropped waits stopped) (.nil _)
  entered {thread world serial past after} waits unstopped inner exact _ := by
    have step : Register.Step world.register (.entered serial : Occurrence A) (world.taken serial).register := by
      rw [Register.register_taken]
      exact .entered waits unstopped
    refine .cons step (inner (step.exact exact) fun other member => ?_)
    cases member
    rw [Register.register_taken]
    exact ⟨exact.waiting_lt _ waits, by simp [Register.taken], unstopped⟩
  called ran exact runs := .cons (.called _ runs) (lawful _ _ _ _ _ exact runs ran)

end

structure World.Undelayed (world : World T A M) : Prop where
  pending : world.pending = []
  stopped : world.stopped = []
  waiting : world.waiting = []

theorem World.Undelayed.exact {world : World T A M} (undelayed : world.Undelayed) :
    world.register.Exact := by
  simp only [World.register, undelayed.pending, undelayed.stopped, undelayed.waiting]
  exact ⟨rfl, .nil, nofun, nofun⟩

/-- A row of deeds makes of the register what its chronicle says. -/
theorem Deed.path_performAll [ClockTime T] {actions : Actions T A M}
    {own : Option Nat → A → World T A M → List (Occurrence A)} (lawful : actions.Lawful own) {bound : Nat}
    {deeds : List (Deed A)} {world after : World T A M} {ended : Except Failure Unit}
    (exact : world.register.Exact)
    (ran : Deed.performAll bound actions deeds world = some (ended, after)) :
    Register.Path world.register (Deed.chronicleAll bound actions own deeds world) after.register :=
  lawful.follows.performAll bound deeds world ended after ran exact nofun

/-! ## Delays that are outstanding -/

/-- A delay has been started, and since then it has not been cancelled, nor has its step woken up. -/
def Outstanding (serial : Nat) (past : List (Occurrence A)) : Prop :=
  ∃ before behind, past = before ++ .started serial :: behind ∧
    .cancelled ∉ behind ∧ .dropped serial ∉ behind ∧ .entered serial ∉ behind

namespace Register

theorem Path.mem_pending {first second : Register} {past : List (Occurrence A)} {serial : Nat}
    (path : Path first past second) (pending : serial ∈ first.pending) (kept : .cancelled ∉ past)
    (undropped : .dropped serial ∉ past) (unentered : .entered serial ∉ past) :
    serial ∈ second.pending := by
  induction path with
  | nil => exact pending
  | cons step path induction =>
      simp only [List.mem_cons, not_or] at kept undropped unentered
      refine induction ?_ kept.2 undropped.2 unentered.2
      cases step with
      | started => exact List.mem_append_left _ pending
      | cancelled => exact absurd rfl kept.1
      | dropped waits =>
          have other := undropped.1
          exact List.mem_filter.mpr ⟨pending, by simpa using other⟩
      | entered waits =>
          have other := unentered.1
          exact List.mem_filter.mpr ⟨pending, by simpa using other⟩
      | called => exact pending

theorem outstanding_or_of_mem_pending {first second : Register} {past : List (Occurrence A)} {serial : Nat}
    (path : Path first past second) (pending : serial ∈ second.pending) :
    Outstanding serial past ∨ serial ∈ first.pending ∧ .cancelled ∉ past ∧ .dropped serial ∉ past ∧
      .entered serial ∉ past := by
  induction path with
  | nil => exact .inr ⟨pending, nofun, nofun, nofun⟩
  | @cons first second third occurrence later step path induction =>
      rcases induction pending with ⟨before, behind, rfl, rest⟩ | ⟨pending, kept, undropped, unentered⟩
      · exact .inl ⟨occurrence :: before, behind, rfl, rest⟩
      · cases step with
        | started =>
            rcases List.mem_append.mp pending with old | new
            · exact .inr ⟨old, by simp [kept], by simp [undropped], by simp [unentered]⟩
            · cases List.mem_singleton.mp new
              exact .inl ⟨[], later, rfl, kept, undropped, unentered⟩
        | cancelled => cases pending
        | dropped waits =>
            rcases List.mem_filter.mp pending with ⟨pending, other⟩
            exact .inr ⟨pending, by simp [kept], by simp [undropped, bne_iff_ne.mp other],
              by simp [unentered]⟩
        | entered waits =>
            rcases List.mem_filter.mp pending with ⟨pending, other⟩
            exact .inr ⟨pending, by simp [kept], by simp [undropped],
              by simp [unentered, bne_iff_ne.mp other]⟩
        | called => exact .inr ⟨pending, by simp [kept], by simp [undropped], by simp [unentered]⟩

/-- From a register without pending delays, those are pending that are outstanding. -/
theorem Path.mem_pending_iff {first second : Register} {past : List (Occurrence A)}
    (path : Path first past second) (empty : first.pending = []) {serial : Nat} :
    serial ∈ second.pending ↔ Outstanding serial past := by
  constructor
  · intro pending
    rcases outstanding_or_of_mem_pending path pending with outstanding | ⟨old, -⟩
    · exact outstanding
    · rw [empty] at old
      cases old
  · rintro ⟨before, behind, rfl, kept, undropped, unentered⟩
    rcases path.split with ⟨middle, _, path⟩
    cases path with
    | cons step path =>
        cases step with
        | started =>
            exact path.mem_pending (List.mem_append_right _ List.mem_cons_self) kept undropped unentered

end Register

/-- After every row of deeds, in whatever way it ends, the pending delays are those that are outstanding
in its chronicle. They are the delays of the steps that wait and have not been cancelled, and each belongs
to one such step. -/
theorem Deed.pending_performAll [ClockTime T] {actions : Actions T A M}
    {own : Option Nat → A → World T A M → List (Occurrence A)} (lawful : actions.Lawful own) {bound : Nat}
    {deeds : List (Deed A)} {world after : World T A M} {ended : Except Failure Unit}
    (undelayed : world.Undelayed)
    (ran : Deed.performAll bound actions deeds world = some (ended, after)) :
    (∀ serial, serial ∈ after.pending ↔
      Outstanding serial (Deed.chronicleAll bound actions own deeds world)) ∧
      after.pending = (after.waiting.map (·.serial)).filter (!after.stopped.contains ·) ∧
      after.pending.Nodup ∧
      ∀ serial ∈ after.pending, ∃! delayed, delayed ∈ after.waiting ∧ delayed.serial = serial := by
  have path := Deed.path_performAll lawful undelayed.exact ran
  have exact := path.exact undelayed.exact
  refine ⟨fun serial => path.mem_pending_iff undelayed.pending, exact.pending,
    exact.nodup_pending, fun serial pending => ?_⟩
  rcases List.mem_map.mp (exact.mem_pending_iff.mp pending).1 with ⟨delayed, waits, rfl⟩
  refine ⟨delayed, ⟨waits, rfl⟩, fun other found => ?_⟩
  exact List.inj_on_of_nodup_map exact.distinct found.1 waits found.2

def impatient : Actions Int Bool (List Bool) where
  perform cancels world :=
    let called := { world with memory := world.memory ++ [cancels] }
    if cancels then some (.error (.raised (ErrorType.baseException.child "SystemExit") none), called.cancelPending)
    else some (.ok (), called)
  label cancels := if cancels then "cancelling" else "passing"

def impatientOwn (_thread : Option Nat) (cancels : Bool) (_world : World Int Bool (List Bool)) :
    List (Occurrence Bool) := if cancels then [.cancelled] else []

theorem lawful_impatient : impatient.Lawful impatientOwn := by
  intro thread cancels world ended after _ _ ran
  cases cancels with
  | true =>
      cases ran
      exact .cons (.cancelled _) (.nil _)
  | false =>
      cases ran
      exact .nil _

def undelayedWorld : World Int Bool (List Bool) := .opening [] .standard []

theorem undelayed_undelayedWorld : undelayedWorld.Undelayed := ⟨rfl, rfl, rfl⟩

def lateCancellation : List (Deed Bool) := [
  .evaluate [⟨.delay 20, {}⟩, ⟨.delay 30, {}⟩] false, .wake 0,
  .evaluate [⟨.delay 10, {}⟩, ⟨.invert, {}⟩] true, .wake 2, .wake 1,
  .evaluate [⟨.delay 5, {}⟩] false]

theorem chronicle_lateCancellation :
    Deed.chronicleAll 9 impatient impatientOwn lateCancellation undelayedWorld =
      [.started 0, .entered 0, .started 1, .started 2, .entered 2, .called (some 2) true, .cancelled,
        .dropped 1, .started 3] := by
  decide +kernel

theorem Deed.pending_lateCancellation :
    ∃ ended after, Deed.performAll 9 impatient lateCancellation undelayedWorld = some (ended, after) ∧
      after.pending = [3] ∧ ∀ serial, serial ∈ after.pending ↔ Outstanding serial
        [.started 0, .entered 0, .started 1, .started 2, .entered 2, .called (some 2) true, .cancelled,
          .dropped 1, .started 3] := by
  have left : (Deed.performAll 9 impatient lateCancellation undelayedWorld).map (·.2.pending) =
      some [3] := by decide +kernel
  rcases Option.map_eq_some_iff.mp left with ⟨⟨ended, after⟩, ran, pending⟩
  have exact := Deed.pending_performAll lawful_impatient undelayed_undelayedWorld ran
  rw [chronicle_lateCancellation] at exact
  exact ⟨ended, after, ran, pending, exact.1⟩

end GuardedSteps
