import GuardedSteps.Proofs.Run.Skip
import Mathlib.Logic.Relation

/-!
Idle guards. A guard that lets the rest run as it is may be put into a chain or taken out of it
anywhere, also at its end: as long as nothing is delayed, the chain runs in the same way. What counts
of a chain are its other guards, in order.
-/

namespace GuardedSteps

/-! ## Chains that differ in idle guards -/

/-- The guard lets the rest run as it is, whatever parameters it carries. -/
def Guard.IsIdle (guard : Guard) : Prop := guard.rule = .passthrough

instance (guard : Guard) : Decidable guard.IsIdle :=
  inferInstanceAs (Decidable (guard.rule = .passthrough))

theorem Guard.isIdle_always : always.IsIdle := rfl

namespace Chain

/-- The second chain has one idle guard more than the first one. -/
inductive Pads : Chain → Chain → Prop
  | here {guard : Guard} (idle : guard.IsIdle) (rest : Chain) : Pads rest (guard :: rest)
  | behind (guard : Guard) {rest longer : Chain} (pads : Pads rest longer) :
      Pads (guard :: rest) (guard :: longer)

/-- One chain is made of the other by putting idle guards in and taking idle guards out. -/
def SameButIdle : Chain → Chain → Prop := Relation.EqvGen Pads

def active (chain : Chain) : Chain := chain.filter fun guard => ¬ guard.IsIdle

theorem active_cons_of_idle {guard : Guard} (idle : guard.IsIdle) (rest : Chain) :
    active (guard :: rest) = active rest := by
  simp [active, idle]

theorem active_cons_of_not_idle {guard : Guard} (busy : ¬ guard.IsIdle) (rest : Chain) :
    active (guard :: rest) = guard :: active rest := by
  simp [active, busy]

theorem Pads.active_eq {chain longer : Chain} (pads : Pads chain longer) :
    active chain = active longer := by
  induction pads with
  | here idle rest => exact (active_cons_of_idle idle rest).symm
  | behind guard pads induction =>
      by_cases idle : guard.IsIdle
      · rw [active_cons_of_idle idle, active_cons_of_idle idle, induction]
      · rw [active_cons_of_not_idle idle, active_cons_of_not_idle idle, induction]

theorem SameButIdle.behind (guard : Guard) {chain other : Chain} (same : SameButIdle chain other) :
    SameButIdle (guard :: chain) (guard :: other) := by
  induction same with
  | rel shorter longer pads => exact .rel _ _ (.behind guard pads)
  | refl chain => exact .refl _
  | symm shorter longer _ induction => exact induction.symm
  | trans first second third _ _ before behind => exact before.trans _ _ _ behind

theorem sameButIdle_active (chain : Chain) : SameButIdle (active chain) chain := by
  induction chain with
  | nil => exact .refl []
  | cons guard rest induction =>
      by_cases idle : guard.IsIdle
      · rw [active_cons_of_idle idle]
        exact induction.trans _ _ _ (.rel _ _ (.here idle rest))
      · rw [active_cons_of_not_idle idle]
        exact induction.behind guard

/-- Chains differ in idle guards only exactly when their other guards are the same. -/
theorem sameButIdle_iff {chain other : Chain} :
    SameButIdle chain other ↔ active chain = active other := by
  constructor
  · intro same
    induction same with
    | rel shorter longer pads => exact pads.active_eq
    | refl chain => rfl
    | symm first second _ induction => exact induction.symm
    | trans first second third _ _ before behind => exact before.trans behind
  · intro equal
    have back := sameButIdle_active other
    rw [← equal] at back
    exact (sameButIdle_active chain).symm.trans _ _ _ back

instance (chain other : Chain) : Decidable (SameButIdle chain other) :=
  decidable_of_iff (active chain = active other) sameButIdle_iff.symm

theorem sameButIdle_concat_always (chain : Chain) : SameButIdle chain (chain ++ [.always]) := by
  rw [sameButIdle_iff]
  simp [active, Guard.isIdle_always]

def Foreground (chain : Chain) : Prop := ∀ guard ∈ chain, ∀ millis, guard.rule ≠ .delay millis

theorem Foreground.of_active_eq {chain other : Chain} (foreground : chain.Foreground)
    (active : chain.active = other.active) : other.Foreground := by
  intro guard member millis delayed
  have busy : ¬ guard.IsIdle := by simp [Guard.IsIdle, delayed]
  have inside : guard ∈ other.active := by simp [Chain.active, member, busy]
  rw [← active] at inside
  exact foreground guard (List.mem_filter.mp inside).1 millis delayed

end Chain

/-! ## Runs of chains -/

variable {T A M : Type} [ClockTime T]

/-- Without its idle guards a chain runs in the same way, and the same happens on the way. -/
theorem runs_active (bound : Nat) (perform : Effect (World T A M) Unit) (action : A) {chain : Chain}
    (foreground : chain.Foreground) :
    evaluate bound perform action (chain.active.map (·.rule)) =
        evaluate bound perform action (chain.map (·.rule)) ∧
      history bound perform action (chain.active.map (·.rule)) =
        history bound perform action (chain.map (·.rule)) := by
  induction chain with
  | nil => exact ⟨rfl, rfl⟩
  | cons guard rest induction =>
      have own := foreground guard List.mem_cons_self
      rcases induction fun other member => foreground other (List.mem_cons_of_mem _ member) with
        ⟨inner, past⟩
      by_cases idle : guard.IsIdle
      · rw [Chain.active_cons_of_idle idle, inner, past, List.map_cons, idle]
        constructor
        · rfl
        · funext world
          rfl
      · rw [Chain.active_cons_of_not_idle idle, List.map_cons, List.map_cons]
        -- Every other guard uses the rest only through its runs and through what happens in them.
        cases kind : guard.rule with
        | passthrough => exact absurd kind idle
        | delay millis => exact absurd kind (own millis)
        | unknown name =>
            constructor
            · rfl
            · funext world
              rfl
        | conditionalSkip | invert | expect =>
            constructor
            · rw [evaluate, evaluate, inner]
            · funext world
              rw [history, history, past]
        | within | during =>
            constructor
            · rw [evaluate, evaluate, inner]
            · funext world
              rw [history, history, past, inner]

/-- From a world, both chains have the same result or raise the same signal, raise the same failure
where failures are raised, and leave the same world; on the way the same conditions are checked and the
same calls are made, in the same worlds and so at the same readings of the clock. -/
structure RunAlike (bound : Nat) (perform : Effect (World T A M) Unit) (action : A)
    (chain other : Chain) (world : World T A M) : Prop where
  evaluated : evaluate bound perform action (chain.map (·.rule)) world =
    evaluate bound perform action (other.map (·.rule)) world
  settled : chain.run bound perform action world = other.run bound perform action world
  past : history bound perform action (chain.map (·.rule)) world =
    history bound perform action (other.map (·.rule)) world

/-- Idle guards are neutral. In a chain that puts nothing off they may be put in and taken out anywhere,
whatever the action does and whatever the world is. So a chain runs as it does with the guard behind it
that the chains of texts end in. -/
theorem runAlike_of_sameButIdle (bound : Nat) (perform : Effect (World T A M) Unit) (action : A)
    {chain other : Chain} (same : chain.SameButIdle other) (foreground : chain.Foreground)
    (world : World T A M) :
    RunAlike bound perform action chain other world ∧
      RunAlike bound perform action chain (chain ++ [.always]) world := by
  have alike (longer : Chain) (same : chain.SameButIdle longer) :
      RunAlike bound perform action chain longer world := by
    have active := Chain.sameButIdle_iff.mp same
    rcases runs_active bound perform action foreground with ⟨first, firstPast⟩
    rcases runs_active bound perform action (foreground.of_active_eq active) with
      ⟨second, secondPast⟩
    rw [active] at first firstPast
    have ran := first.symm.trans second
    constructor
    case evaluated => rw [ran]
    case settled => rw [Chain.run, Chain.run, ran]
    case past => rw [← firstPast, secondPast]
  exact ⟨alike other same, alike _ (Chain.sameButIdle_concat_always chain)⟩

theorem runAlike_hesitant :
    let chain : Chain := [⟨.invert, {}⟩, ⟨.within 50, {}⟩]
    let padded : Chain :=
      [.always, ⟨.invert, {}⟩, ⟨.passthrough, { millis := some 7 }⟩, ⟨.within 50, {}⟩, .always]
    chain.SameButIdle padded ∧ chain.Foreground ∧
      RunAlike 5 hesitant () chain padded startingWorld ∧
      ∃ after, evaluate 5 hesitant () (padded.map (·.rule)) startingWorld =
        some (.ok .skipped, after) ∧ after.memory = [0, 10] := by
  intro chain padded
  have same : chain.SameButIdle padded := by decide
  have foreground : chain.Foreground := by simp [chain, Chain.Foreground]
  have alike := (runAlike_of_sameButIdle 5 hesitant () same foreground startingWorld).1
  refine ⟨same, foreground, alike, ?_⟩
  rw [← alike.evaluated]
  exact ⟨_, rfl, rfl⟩

end GuardedSteps
