import GuardedSteps.Proofs.Run.History

/-!
Conclusions. A skip and a signal to leave the program are passed on by inversions and polls as they are,
and a poll makes no further attempt after them. An event with such an end concludes the run: it is the
last one, and the run ends in the same way.
-/

namespace GuardedSteps

variable {T A M : Type}

/-! ## Lasting ends -/

/-- An end that no inversion changes and no poll retries. -/
inductive Result.Lasting : Except Failure Result → Prop
  | skipped : Lasting (.ok .skipped)
  | signal {failure : Failure} (signal : failure.isOrdinary = false)
    (unretried : failure.isAssertion = false) : Lasting (.error failure)

namespace Result.Lasting

variable {value : Except Failure Result}

theorem map_inverted (lasting : Lasting value) : value.map Result.inverted = value := by
  cases lasting with
  | skipped => rfl
  | signal => rfl

variable [ClockTime T]

theorem untilNext_eq (lasting : Lasting value) (millis interval : Int) (deadline : T)
    (after : World T A M) : Polling.untilNext millis interval deadline value after = .ended value after := by
  cases lasting with
  | skipped => rfl
  | signal signal unretried => simp [Polling.untilNext, Polling.surfaced, signal, unretried]

theorem duringNext_eq (lasting : Lasting value) (millis interval : Int) (opened deadline : T)
    (after : World T A M) :
    Polling.duringNext millis interval opened deadline value after = .ended value after := by
  cases lasting with
  | skipped => rfl
  | signal signal => simp [Polling.duringNext, signal]

end Result.Lasting

/-! ## Events that conclude a run -/

/-- In a run of these events, nothing happens after an event of the sort, and the run ends in the
value. -/
def Concludes (sort : Event T A M → Prop) (value : Except Failure Result) (events : List (Event T A M))
    (ended : Option (Except Failure Result × World T A M)) : Prop :=
  ∀ before event later, events = before ++ event :: later → sort event →
    later = [] ∧ ∃ after, ended = some (value, after)

namespace Concludes

variable {sort : Event T A M → Prop} {value : Except Failure Result}

theorem nil (ended : Option (Except Failure Result × World T A M)) : Concludes sort value [] ended := by
  intro before event later split
  simp at split

theorem single {event : Event T A M} {ended : Option (Except Failure Result × World T A M)}
    (ends : sort event → ∃ after, ended = some (value, after)) :
    Concludes sort value [event] ended := by
  intro before found later split own
  rcases List.append_eq_singleton_iff.mp split.symm with ⟨-, last⟩ | ⟨-, last⟩
  · cases last
    exact ⟨rfl, ends own⟩
  · cases last

theorem append {past more : List (Event T A M)}
    {first ended : Option (Except Failure Result × World T A M)}
    (earlier : Concludes sort value past first)
    (stopped : ∀ after, first = some (value, after) →
      more = [] ∧ ∃ last, ended = some (value, last))
    (later : Concludes sort value more ended) : Concludes sort value (past ++ more) ended := by
  intro before event rest split own
  rcases List.append_eq_append_iff.mp split with ⟨middle, -, behind⟩ | ⟨middle, front, behind⟩
  · exact later middle event rest behind own
  · cases middle with
    | nil => exact later [] event rest behind.symm own
    | cons found middle =>
        cases behind
        rcases earlier before event middle front own with ⟨rfl, after, done⟩
        rcases stopped after done with ⟨rfl, last⟩
        exact ⟨rfl, last⟩

theorem map {events : List (Event T A M)} {other : Except Failure Result}
    {first : Option (Except Failure Result × World T A M)} (inner : Concludes sort value events first)
    {change : Except Failure Result × World T A M → Except Failure Result × World T A M}
    (changes : ∀ after, (change (value, after)).1 = other) :
    Concludes sort other events (first.map change) := by
  intro before event later split own
  rcases inner before event later split own with ⟨rest, after, rfl⟩
  exact ⟨rest, (change (value, after)).2, by rw [← changes after]; rfl⟩

end Concludes

/-! ## Conclusions behind guards -/

section

variable {sort : Event T A M → Prop} {value : Except Failure Result}

theorem concludes_attempts {next : Polling.Choice T A M}
    (stops : ∀ after, next value after = .ended value after) {rest : Effect (World T A M) Result}
    {past : World T A M → List (Event T A M)}
    (inner : ∀ world, Concludes sort value (past world) (rest world)) (bound : Nat)
    (world : World T A M) :
    Concludes sort value (Polling.attemptsHistory (Polling.tried rest next) past bound world)
      (Polling.attempts (Polling.tried rest next) bound world) := by
  induction bound generalizing world with
  | zero => exact Concludes.nil none
  | succ bound induction =>
      unfold Polling.attemptsHistory
      rw [Polling.attempts_succ]
      apply Concludes.append (inner world)
      · intro after done
        have made : Polling.tried rest next world = some (.ended value after) := by
          simp [Polling.tried, done, stops]
        rw [made]
        exact ⟨rfl, after, rfl⟩
      · cases made : Polling.tried rest next world with
        | none => exact Concludes.nil _
        | some choice =>
            cases choice with
            | ended value after => exact Concludes.nil _
            | again later => exact induction later

variable [ClockTime T]

theorem concludes_repeated {millis : Int}
    {next : (interval : Int) → (opened deadline : T) → Polling.Choice T A M}
    (stops : ∀ interval opened deadline after,
      next interval opened deadline value after = .ended value after)
    {rest : Effect (World T A M) Result} {past : World T A M → List (Event T A M)}
    (inner : ∀ world, Concludes sort value (past world) (rest world)) (bound : Nat)
    (world : World T A M) :
    Concludes sort value (Polling.repeatedHistory bound millis next rest past world)
      (Polling.repeated bound millis next rest world) := by
  unfold Polling.repeatedHistory Polling.repeated
  cases ClockTime.ofMillis (T := T) millis with
  | ok span => exact concludes_attempts (stops _ _ _) inner bound world
  | error fault => exact Concludes.nil _

/-- An event that ends in a lasting value concludes the run, behind guards of which none expects the
value. -/
theorem concludes_history (bound : Nat) {perform : Effect (World T A M) Unit} (action : A)
    (lasting : Result.Lasting value)
    (called : ∀ world, sort (.called world) →
      ∃ after, Result.ofAction perform world = some (value, after))
    (checked : ∀ condition world, sort (.checked condition world) →
      value = .ok .skipped ∧ ∃ clause, Condition.check world.bindings condition = .unmet clause)
    {rules : List Rule} (unexpected : ∀ type, .expect type ∈ rules → Polling.judged type value = value)
    (world : World T A M) :
    Concludes sort value (history bound perform action rules world)
      (evaluate bound perform action rules world) := by
  induction rules generalizing world with
  | nil => exact Concludes.single (called world)
  | cons rule rest induction =>
      have inner := induction fun type member => unexpected type (List.mem_cons_of_mem rule member)
      cases rule with
      | passthrough => exact inner world
      | conditionalSkip condition =>
          cases verdict : Condition.check world.bindings condition with
          | met =>
              simp only [history, evaluate, verdict]
              have harmless : Concludes sort value [.checked condition world] none := by
                apply Concludes.single
                intro own
                rcases checked condition world own with ⟨-, clause, unmet⟩
                cases verdict.symm.trans unmet
              apply harmless.append
              · intro after done
                cases done
              · exact inner world
          | unmet clause =>
              simp only [history, evaluate, verdict]
              apply Concludes.single
              intro own
              exact ⟨_, by rw [(checked condition world own).1]⟩
          | failed failure =>
              simp only [history, evaluate, verdict]
              apply Concludes.single
              intro own
              rcases checked condition world own with ⟨-, clause, unmet⟩
              cases verdict.symm.trans unmet
      | invert =>
          rw [evaluate_invert]
          exact (inner world.inverting).map fun _ => lasting.map_inverted
      | delay millis => exact Concludes.nil _
      | within millis =>
          rw [evaluate_within]
          exact concludes_repeated (fun interval _ => lasting.untilNext_eq millis interval) inner bound world
      | during millis =>
          rw [evaluate_during]
          exact concludes_repeated (lasting.duringNext_eq millis) inner bound world
      | expect type =>
          rw [evaluate_expect]
          exact (inner world).map fun _ => unexpected type List.mem_cons_self
      | unknown kind => exact Concludes.nil _

end

end GuardedSteps
