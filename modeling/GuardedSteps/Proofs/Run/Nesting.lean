import GuardedSteps.Proofs.Run.Arrivals
import GuardedSteps.Proofs.Run.Dependence
import GuardedSteps.Proofs.Run.Settling
import GuardedSteps.Proofs.Run.Skip

/-!
Nested guards that neither repeat nor delay what stands behind them. Such a chain calls its action once
or never: conditions alone decide which. What comes of the innermost part of the run is turned by the
guards around it, one after the other from the inside out.
-/

namespace GuardedSteps

/-! ## Conditions clause by clause -/

namespace Condition

open Text

def clauses (condition : String) : List (List Char) := (conjuncts condition.toList).map trim

theorem holds_of_resolved {bindings : Variables} {subject template : String} {value : Value}
    {flag : String} (leads : bindings.getOrSelf subject = .ok value)
    (filled : Template.resolveFlag bindings template = .ok flag) :
    holds bindings subject template =
      (Comparison.meets value (.text ("?" ++ flag))).mapError .comparison := by
  unfold holds
  rw [leads, filled]
  rfl

/-- A clause is met by the variables, or it has no subject or no template. -/
def ClauseMet (bindings : Variables) (clause : List Char) : Prop :=
  ∀ subject template, clause? clause = some (subject, template) →
    holds bindings subject template = .ok ()

def Met (bindings : Variables) (condition : String) : Prop :=
  ∀ clause ∈ clauses condition, ClauseMet bindings clause

/-- The first clause that is not met ends in the failure. -/
structure FirstUnmet (bindings : Variables) (cs : List (List Char)) (clause : List Char)
    (failure : Failure) : Prop where
  first : ∃ before behind, cs = before ++ clause :: behind ∧
    ∀ earlier ∈ before, ClauseMet bindings earlier
  fails : ∃ subject template, clause? clause = some (subject, template) ∧
    holds bindings subject template = .error failure

def verdict (clause : List Char) (failure : Failure) : Verdict :=
  if failure.isAssertion then .unmet (String.ofList clause) else .failed failure

theorem FirstUnmet.cons {bindings : Variables} {cs : List (List Char)} {first clause : List Char}
    {failure : Failure} (met : ClauseMet bindings first) (unmet : FirstUnmet bindings cs clause failure) :
    FirstUnmet bindings (first :: cs) clause failure where
  first := by
    rcases unmet.first with ⟨before, behind, rfl, earlier⟩
    exact ⟨first :: before, behind, rfl, List.forall_mem_cons.mpr ⟨met, earlier⟩⟩
  fails := unmet.fails

/-- What clauses come to in order: all of them are met, or the first that is not decides. -/
def ComeTo (bindings : Variables) (cs : List (List Char)) (ending : Verdict) : Prop :=
  (ending = .met ∧ ∀ clause ∈ cs, ClauseMet bindings clause) ∨
  ∃ clause failure, ending = verdict clause failure ∧ FirstUnmet bindings cs clause failure

theorem ComeTo.cons {bindings : Variables} {cs : List (List Char)} {first : List Char} {ending : Verdict}
    (met : ClauseMet bindings first) (rest : ComeTo bindings cs ending) :
    ComeTo bindings (first :: cs) ending := by
  rcases rest with ⟨same, all⟩ | ⟨clause, failure, same, unmet⟩
  · exact .inl ⟨same, List.forall_mem_cons.mpr ⟨met, all⟩⟩
  · exact .inr ⟨clause, failure, same, unmet.cons met⟩

theorem comeTo_checkClauses (bindings : Variables) (cs : List (List Char)) :
    ComeTo bindings (cs.map trim) (checkClauses bindings cs) := by
  induction cs with
  | nil => exact .inl ⟨rfl, by simp⟩
  | cons own rest induction =>
      rw [List.map_cons]
      cases shape : clause? (trim own) with
      | none =>
          have met : ClauseMet bindings (trim own) := by
            intro subject template written
            cases shape.symm.trans written
          have skips : checkClauses bindings (own :: rest) = checkClauses bindings rest := by
            simp [checkClauses, shape]
          exact skips ▸ induction.cons met
      | some found =>
          rcases found with ⟨subject, template⟩
          cases compared : holds bindings subject template with
          | ok =>
              have met : ClauseMet bindings (trim own) := by
                intro other rest written
                cases shape.symm.trans written
                exact compared
              have skips : checkClauses bindings (own :: rest) = checkClauses bindings rest := by
                simp [checkClauses, shape, compared]
              exact skips ▸ induction.cons met
          | error failure =>
              have stops : checkClauses bindings (own :: rest) = verdict (trim own) failure := by
                simp [checkClauses, shape, compared, verdict]
              exact .inr ⟨trim own, failure, stops, ⟨[], _, rfl, by simp⟩, subject, template, shape,
                compared⟩

theorem check_of_met {bindings : Variables} {condition : String} (met : Met bindings condition) :
    check bindings condition = .met := by
  rcases comeTo_checkClauses bindings (conjuncts condition.toList) with
    ⟨checked, _⟩ | ⟨clause, failure, _, unmet⟩
  · exact checked
  · rcases unmet.first with ⟨before, behind, split, _⟩
    rcases unmet.fails with ⟨subject, template, shape, compared⟩
    have inside : clause ∈ clauses condition := by simp [clauses, split]
    cases compared.symm.trans (met clause inside subject template shape)

theorem exists_first_unmet {bindings : Variables} {condition : String}
    (unmet : ¬ Met bindings condition) : ∃ clause failure,
      check bindings condition = verdict clause failure ∧
      FirstUnmet bindings (clauses condition) clause failure := by
  rcases comeTo_checkClauses bindings (conjuncts condition.toList) with ⟨_, met⟩ | found
  · exact absurd met unmet
  · exact found

end Condition

/-! ## What a guard makes of the outcome of the rest -/

/-- The guard lets the rest run at most once, and at once. -/
inductive Rule.Direct : Rule → Prop
  | passthrough : Direct .passthrough
  | conditionalSkip (condition : String) : Direct (.conditionalSkip condition)
  | invert : Direct .invert
  | expect (type : ErrorType) : Direct (.expect type)

/-- The outcome of a step behind a guard, from the one of the rest. -/
def Rule.turned : Rule → Result → Result
  | .invert, .passed => .failed .unexpectedPass
  | .invert, .failed _ => .passed
  | .expect type, .passed => .failed (.nothingThrown type.name)
  | .expect type, .failed failure =>
    if failure.type.isA type then .passed
    else .failed (failure.reportedAs (.otherThrown type.name failure))
  | _, result => result

theorem Rule.turned_invert (result : Result) : Rule.invert.turned result = result.inverted := by
  cases result <;> rfl

/-- An expectation judges a proper outcome as it turns it. -/
theorem Polling.judged_eq_turned (type : ErrorType) {result : Result} (proper : result.Proper) :
    judged type (.ok result) = .ok ((Rule.expect type).turned result) := by
  cases result with
  | passed => rfl
  | skipped => rfl
  | failed failure =>
      simp only [judged, Rule.turned, proper.1, if_true]
      split <;> rfl

theorem Result.proper_turned (rule : Rule) {result : Result} (proper : result.Proper) :
    (rule.turned result).Proper := by
  cases rule with
  | invert =>
      cases result with
      | passed => exact Failure.proper_unexpectedPass
      | failed failure => trivial
      | skipped => trivial
  | expect type =>
      cases result with
      | passed => exact Failure.proper_nothingThrown type.name
      | failed failure =>
          simp only [Rule.turned]
          split
          · trivial
          · exact (Failure.proper_otherThrown type.name failure).reportedAs failure
      | skipped => trivial
  | passthrough => exact proper
  | conditionalSkip condition => exact proper
  | delay millis => exact proper
  | within millis => exact proper
  | during millis => exact proper
  | unknown kind => exact proper

theorem Result.proper_foldr_turned (rules : List Rule) {result : Result} (proper : result.Proper) :
    (rules.foldr Rule.turned result).Proper := by
  induction rules with
  | nil => exact proper
  | cons rule rest induction => exact proper_turned rule induction

def Result.outcome : Except Failure Unit → Result
  | .ok () => .passed
  | .error failure => if failure.isSkip then .skipped else .failed failure

def Result.hindered (failure : Failure) : Result :=
  if failure.isAssertion then .skipped else .failed failure

/-! ## Runs behind nested guards -/

namespace World

variable {T A M : Type}

def AlikeButTimeout (world other : World T A M) : Prop :=
  world = { other with defaultTimeout := world.defaultTimeout }

theorem AlikeButTimeout.refl (world : World T A M) : AlikeButTimeout world world := rfl

theorem AlikeButTimeout.trans {first second third : World T A M}
    (before : AlikeButTimeout first second) (behind : AlikeButTimeout second third) :
    AlikeButTimeout first third := by
  unfold AlikeButTimeout at *
  rw [before, behind]

theorem AlikeButTimeout.bindings {world other : World T A M} (alike : AlikeButTimeout world other) :
    world.bindings = other.bindings := by
  rw [alike]

end World

variable {T A M : Type} [ClockTime T]

/-- The run behind the guards goes on in one world, and its outcome is the turned one of the rest. -/
structure GoesOn (bound : Nat) (perform : Effect (World T A M) Unit) (action : A) (outer rest : List Rule)
    (world start : World T A M) : Prop where
  alike : start.AlikeButTimeout world
  calls : Event.calls (history bound perform action (outer ++ rest) world) =
    Event.calls (history bound perform action rest start)
  outcome : ∀ result left, result.Proper →
    evaluate bound perform action rest start = some (.ok result, left) →
    ∃ after, evaluate bound perform action (outer ++ rest) world =
      some (.ok (outer.foldr Rule.turned result), after) ∧ after.AlikeButTimeout left

theorem goesOn_cons (bound : Nat) (perform : Effect (World T A M) Unit) (action : A) {rule : Rule}
    (direct : rule.Direct) (rest : List Rule) {world : World T A M}
    (met : ∀ condition, rule = .conditionalSkip condition → Condition.Met world.bindings condition) :
    ∃ start, GoesOn bound perform action [rule] rest world start := by
  cases direct with
  | passthrough =>
      exact ⟨world, .refl world, rfl, fun result left _ ran => ⟨left, ran, .refl left⟩⟩
  | conditionalSkip condition =>
      have checked := Condition.check_of_met (met condition rfl)
      refine ⟨world, .refl world, ?_, fun result left _ ran => ⟨left, ?_, .refl left⟩⟩
      · simp [history, Event.calls_checked, checked]
      · simpa [evaluate, checked, Rule.turned] using ran
  | invert =>
      refine ⟨world.inverting, rfl, rfl, fun result left _ ran =>
        ⟨{ left with defaultTimeout := world.defaultTimeout }, ?_, rfl⟩⟩
      rw [List.singleton_append, evaluate_invert, ran]
      simp [Except.map, Rule.turned_invert]
  | expect type =>
      refine ⟨world, .refl world, rfl, fun result left proper ran => ⟨left, ?_, .refl left⟩⟩
      rw [List.singleton_append, evaluate_expect, ran]
      simp [Polling.judged_eq_turned type proper]

/-- Guards whose conditions are met let the run go on, however they are nested. -/
theorem exists_goesOn (bound : Nat) (perform : Effect (World T A M) Unit) (action : A)
    {outer : List Rule} (direct : ∀ rule ∈ outer, rule.Direct) (rest : List Rule) {world : World T A M}
    (met : ∀ condition, .conditionalSkip condition ∈ outer → Condition.Met world.bindings condition) :
    ∃ start, GoesOn bound perform action outer rest world start := by
  induction outer generalizing world with
  | nil => exact ⟨world, .refl world, rfl, fun result left _ ran => ⟨left, ran, .refl left⟩⟩
  | cons rule outer induction =>
      have own (condition : String) (same : rule = .conditionalSkip condition) :
          Condition.Met world.bindings condition := met condition (same ▸ List.mem_cons_self)
      rcases goesOn_cons bound perform action (direct rule List.mem_cons_self) (outer ++ rest) own with
        ⟨second, first⟩
      have others : ∀ condition, .conditionalSkip condition ∈ outer →
          Condition.Met second.bindings condition := by
        intro condition member
        rw [first.alike.bindings]
        exact met condition (List.mem_cons_of_mem rule member)
      rcases induction (fun other member => direct other (List.mem_cons_of_mem rule member)) others with
        ⟨start, behind⟩
      refine ⟨start, behind.alike.trans first.alike, first.calls.trans behind.calls, ?_⟩
      intro result left proper ran
      rcases behind.outcome result left proper ran with ⟨reached, inner, same⟩
      rcases first.outcome _ reached (Result.proper_foldr_turned outer proper) inner with
        ⟨after, whole, alike⟩
      exact ⟨after, whole, alike.trans same⟩

theorem exists_outermost_unmet {bindings : Variables} {rules : List Rule}
    (unmet : ¬ ∀ condition, .conditionalSkip condition ∈ rules → Condition.Met bindings condition) :
    ∃ outer condition inner, rules = outer ++ .conditionalSkip condition :: inner ∧
      (∀ earlier, .conditionalSkip earlier ∈ outer → Condition.Met bindings earlier) ∧
      ¬ Condition.Met bindings condition := by
  induction rules with
  | nil => exact absurd (by simp) unmet
  | cons rule rest induction =>
      by_cases own : ∀ condition, rule = .conditionalSkip condition → Condition.Met bindings condition
      · have behind : ¬ ∀ condition, .conditionalSkip condition ∈ rest →
            Condition.Met bindings condition := by
          intro met
          refine unmet fun condition member => ?_
          rcases List.mem_cons.mp member with same | member
          · exact own condition same.symm
          · exact met condition member
        rcases induction behind with ⟨outer, condition, inner, rfl, earlier, first⟩
        refine ⟨rule :: outer, condition, inner, rfl, fun other member => ?_, first⟩
        rcases List.mem_cons.mp member with same | member
        · exact own other same.symm
        · exact earlier other member
      · push Not at own
        rcases own with ⟨condition, rfl, first⟩
        exact ⟨[], condition, rest, rfl, by simp, first⟩

theorem evaluate_congr_of_calls {bound : Nat} {perform : Effect (World T A M) Unit} {action : A}
    {rules : List Rule} {world : World T A M}
    (none : Event.calls (history bound perform action rules world) = [])
    (other : Effect (World T A M) Unit) :
    evaluate bound perform action rules world = evaluate bound other action rules world := by
  refine evaluate_congr bound action fun event member => ?_
  cases event with
  | called call =>
      have inside := Event.mem_calls_iff.mpr member
      rw [none] at inside
      cases inside
  | checked condition start => trivial

omit [ClockTime T] in
theorem outcome_of_call {perform : Effect (World T A M) Unit} (ordinary : RaisesOrdinary perform)
    {call left : World T A M} {ended : Except Failure Unit} (called : perform call = some (ended, left)) :
    Result.ofAction perform call = some (.ok (Result.outcome ended), left) ∧
      (Result.outcome ended).Proper := by
  cases ended with
  | ok => exact ⟨by simp [Result.ofAction, called, Result.outcome], trivial⟩
  | error failure =>
      have raised := ordinary call failure left called
      cases skip : failure.isSkip with
      | true => simp [Result.ofAction, called, Result.outcome, skip, Result.Proper]
      | false =>
          simp [Result.ofAction, called, Result.outcome, skip, raised, Result.Proper, Failure.Proper]

/-- What comes of a run at a condition that is not met. -/
theorem evaluate_of_unmet (bound : Nat) (perform : Effect (World T A M) Unit) (action : A)
    {condition : String} (rest : List Rule) {world : World T A M} {clause : List Char} {failure : Failure}
    (checked : Condition.check world.bindings condition = Condition.verdict clause failure) :
    (∃ left, evaluate bound perform action (.conditionalSkip condition :: rest) world =
      some (.ok (Result.hindered failure), left)) ∧
    Event.calls (history bound perform action (.conditionalSkip condition :: rest) world) = [] ∧
    (Result.hindered failure).Proper := by
  unfold Condition.verdict at checked
  unfold Result.hindered
  cases assertion : failure.isAssertion with
  | true =>
      simp only [assertion, if_true] at checked ⊢
      refine ⟨⟨world.note (.unmet (String.ofList clause)), ?_⟩, by simp [history, checked, Event.calls],
        trivial⟩
      simp only [evaluate, checked]
  | false =>
      simp only [assertion, Bool.false_eq_true, if_false] at checked ⊢
      refine ⟨⟨world, ?_⟩, by simp [history, checked, Event.calls], Condition.proper_of_check checked⟩
      simp only [evaluate, checked]

/-- Behind guards that neither repeat nor delay the step, in whatever order they are nested, the action
is called once if all their conditions are met by the variables at the start, and never otherwise. The
outcome is turned by all guards from the innermost to the outermost. Where a condition is not met, the
guards around the outermost such condition turn what comes of it: a skip if the comparison of its first
clause that is not met is an assertion, and else the failure to compare. -/
theorem evaluate_nested (bound : Nat) {perform : Effect (World T A M) Unit} (action : A)
    {rules : List Rule} (direct : ∀ rule ∈ rules, rule.Direct)
    (ends : ∀ world, ∃ ended left, perform world = some (ended, left))
    (ordinary : RaisesOrdinary perform) (world : World T A M) :
    ((∀ condition, .conditionalSkip condition ∈ rules → Condition.Met world.bindings condition) →
      ∃ call ended left after,
        Event.calls (history bound perform action rules world) = [call] ∧
        call.AlikeButTimeout world ∧ perform call = some (ended, left) ∧
        evaluate bound perform action rules world =
          some (.ok (rules.foldr Rule.turned (Result.outcome ended)), after) ∧
        after.AlikeButTimeout left) ∧
    ((¬ ∀ condition, .conditionalSkip condition ∈ rules → Condition.Met world.bindings condition) →
      Event.calls (history bound perform action rules world) = [] ∧
      (∀ other, evaluate bound perform action rules world = evaluate bound other action rules world) ∧
      ∃ outer condition inner clause failure after,
        rules = outer ++ .conditionalSkip condition :: inner ∧
        (∀ earlier, .conditionalSkip earlier ∈ outer → Condition.Met world.bindings earlier) ∧
        Condition.FirstUnmet world.bindings (Condition.clauses condition) clause failure ∧
        evaluate bound perform action rules world =
          some (.ok (outer.foldr Rule.turned (Result.hindered failure)), after)) := by
  constructor
  · intro met
    rcases exists_goesOn bound perform action direct [] met with ⟨call, goesOn⟩
    rcases ends call with ⟨ended, left, called⟩
    rcases outcome_of_call ordinary called with ⟨ran, proper⟩
    rcases goesOn.outcome _ left proper ran with ⟨after, whole, alike⟩
    have calls := goesOn.calls
    rw [List.append_nil] at whole calls
    exact ⟨call, ended, left, after, calls, goesOn.alike, called, whole, alike⟩
  · intro unmet
    rcases exists_outermost_unmet unmet with ⟨outer, condition, inner, rfl, earlier, own⟩
    rcases exists_goesOn bound perform action (fun rule member =>
      direct rule (List.mem_append_left _ member)) (.conditionalSkip condition :: inner) earlier with
      ⟨start, goesOn⟩
    rcases Condition.exists_first_unmet own with ⟨clause, failure, checked, first⟩
    rw [← goesOn.alike.bindings] at checked
    rcases evaluate_of_unmet bound perform action inner checked with ⟨⟨left, ran⟩, uncalled, proper⟩
    rcases goesOn.outcome _ left proper ran with ⟨after, whole, -⟩
    have none := goesOn.calls.trans uncalled
    exact ⟨none, evaluate_congr_of_calls none,
      outer, condition, inner, clause, failure, after, rfl, earlier, first, whole⟩

def failing : Effect (World Int Unit (List Int)) Unit := fun world =>
  some (.error (.raised .valueError none), world)

theorem raisesOrdinary_failing : RaisesOrdinary failing := by
  intro world failure after ran
  cases ran
  decide

theorem evaluate_failing :
    (∃ after, evaluate 0 failing () [.invert, .conditionalSkip "bob == bob", .expect .valueError]
      startingWorld = some (.ok (.failed .unexpectedPass), after)) ∧
    Event.calls (history 0 failing () [.expect .valueError, .conditionalSkip "bob == ann"]
      startingWorld) = [] := by
  have ends (world : World Int Unit (List Int)) : ∃ ended left, failing world = some (ended, left) :=
    ⟨_, _, rfl⟩
  constructor
  · have clauses : Condition.clauses "bob == bob" = ["bob == bob".toList] := by decide +kernel
    have shape : Condition.clause? "bob == bob".toList = some ("bob", "== bob") := by decide +kernel
    have compared : (Condition.holds [] "bob" "== bob").toBool = true := by decide +kernel
    have met : Condition.Met [] "bob == bob" := by
      intro clause member subject template written
      rw [clauses, List.mem_singleton] at member
      subst member
      cases shape.symm.trans written
      cases ended : Condition.holds [] "bob" "== bob" with
      | ok => rfl
      | error failure =>
          rw [ended] at compared
          cases compared
    have direct : ∀ rule ∈ [Rule.invert, .conditionalSkip "bob == bob", .expect .valueError],
        rule.Direct := by
      simp [Rule.Direct.invert, Rule.Direct.conditionalSkip, Rule.Direct.expect]
    rcases (evaluate_nested 0 () direct ends raisesOrdinary_failing startingWorld).1
      (by simpa [startingWorld, World.opening] using met) with ⟨call, ended, left, after, -, -, called, ran, -⟩
    cases called
    exact ⟨after, ran⟩
  · have shape : Condition.clause? "bob == ann".toList = some ("bob", "== ann") := by decide +kernel
    have compared : (Condition.holds [] "bob" "== ann").toBool = false := by decide +kernel
    have unmet : ¬ Condition.Met [] "bob == ann" := by
      intro met
      have same := met "bob == ann".toList (by decide +kernel) "bob" "== ann" shape
      rw [same] at compared
      cases compared
    have direct : ∀ rule ∈ [Rule.expect .valueError, .conditionalSkip "bob == ann"], rule.Direct := by
      simp [Rule.Direct.conditionalSkip, Rule.Direct.expect]
    exact ((evaluate_nested 0 () direct ends raisesOrdinary_failing startingWorld).2
      (by simpa [startingWorld, World.opening] using unmet)).1

end GuardedSteps
