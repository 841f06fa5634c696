import GuardedSteps.Proofs.Run.Nesting

/-!
Conjunctions. A condition whose parts are joined by `&&` does what a condition for each part does, one
behind the other: the joint ends the last clause of what stands before it, whatever that is, and the
clauses of both parts are checked in the same order. Where all clauses can be compared their order does
not matter, apart from which of the unmet ones is noted.
-/

namespace GuardedSteps

namespace Condition

open Text

/-! ## The clauses of joined conditions -/

def joint : String := " && "

theorem conjuncts_cons {c : Char} {cs first : List Char} {more : List (List Char)}
    (apart : ∀ rest, c = '&' → cs = '&' :: rest → False) (split : conjuncts cs = first :: more) :
    conjuncts (c :: cs) = (c :: first) :: more := by
  rw [conjuncts, split]
  exact apart

theorem exists_conjuncts_append (cs : List Char) : ∃ front last, conjuncts cs = front ++ [last] ∧
    ∀ rest, conjuncts (cs ++ ' ' :: '&' :: '&' :: rest) = front ++ (last ++ [' ']) :: conjuncts rest := by
  fun_induction conjuncts cs with
  | case1 => exact ⟨[], [], rfl, fun rest => by simp [conjuncts]⟩
  | case2 cs induction =>
      rcases induction with ⟨front, last, own, behind⟩
      exact ⟨[] :: front, last, by simp [own], fun rest => by simp [conjuncts, behind]⟩
  | case3 c cs apart first more split induction =>
      rcases induction with ⟨front, last, own, behind⟩
      -- A single ampersand at the end of the text does not pair with the joint either.
      have still (rest others : List Char) (ampersand : c = '&') :
          cs ++ ' ' :: '&' :: '&' :: rest = '&' :: others → False := by
        intro paired
        cases cs with
        | nil => cases paired
        | cons second cs =>
            cases paired
            exact apart _ ampersand rfl
      cases front with
      | nil =>
          cases split.symm.trans own
          exact ⟨[], c :: first, rfl, fun rest => conjuncts_cons (still rest) (behind rest)⟩
      | cons next front =>
          cases split.symm.trans own
          exact ⟨(c :: first) :: front, last, rfl, fun rest => conjuncts_cons (still rest) (behind rest)⟩
  | case4 c cs apart empty induction =>
      rcases induction with ⟨front, last, own, -⟩
      cases front <;> cases empty.symm.trans own

theorem map_trim_conjuncts_space (cs : List Char) :
    (conjuncts (' ' :: cs)).map trim = (conjuncts cs).map trim := by
  rcases exists_conjuncts_append cs with ⟨front, last, own, -⟩
  have apart (rest : List Char) (space : ' ' = '&') : cs = '&' :: rest → False := by
    cases space
  cases front with
  | nil => rw [conjuncts_cons apart own, own, List.map_cons, trim_cons_of_blank (by decide)]; rfl
  | cons first front =>
      rw [conjuncts_cons apart own, own, List.map_cons, trim_cons_of_blank (by decide)]; rfl

/-- The clauses of joined conditions are those of the first, and then those of the second. -/
theorem clauses_joint (first second : String) :
    clauses (first ++ joint ++ second) = clauses first ++ clauses second := by
  rcases exists_conjuncts_append first.toList with ⟨front, last, own, behind⟩
  have whole : (first ++ joint ++ second).toList =
      first.toList ++ ' ' :: '&' :: '&' :: ' ' :: second.toList := by simp [joint]
  rw [clauses, whole, behind, clauses, own, clauses, List.map_append, List.map_cons,
    trim_concat_of_blank (by decide), map_trim_conjuncts_space]
  simp

/-! ## Checking clause by clause -/

theorem checkClauses_map_trim (bindings : Variables) (cs : List (List Char)) :
    checkClauses bindings (cs.map trim) = checkClauses bindings cs := by
  induction cs with
  | nil => rfl
  | cons clause rest induction => simp only [List.map_cons, checkClauses, trim_trim, induction]

theorem check_eq (bindings : Variables) (condition : String) :
    check bindings condition = checkClauses bindings (clauses condition) :=
  (checkClauses_map_trim bindings _).symm

/-- What a row of clauses comes to unless all of them are met. -/
def Verdict.orElse : Verdict → Verdict → Verdict
  | .met, next => next
  | ending, _ => ending

theorem checkClauses_append (bindings : Variables) (cs others : List (List Char)) :
    checkClauses bindings (cs ++ others) =
      (checkClauses bindings cs).orElse (checkClauses bindings others) := by
  induction cs with
  | nil => rfl
  | cons clause rest induction =>
      rw [List.cons_append, checkClauses, checkClauses]
      cases clause? (trim clause) with
      | none => exact induction
      | some found =>
          cases compared : holds bindings found.1 found.2 with
          | ok => simpa only [compared] using induction
          | error failure =>
              simp only [compared]
              cases failure.isAssertion <;> rfl

/-- A joined condition comes to what the first part comes to, or else to what the second one does. -/
theorem check_joint (bindings : Variables) (first second : String) :
    check bindings (first ++ joint ++ second) =
      (check bindings first).orElse (check bindings second) := by
  rw [check_eq, clauses_joint, checkClauses_append, ← check_eq, ← check_eq]

/-! ## Clauses in another order -/

/-- Each clause of the condition can be compared: it is met, or it fails by an assertion. -/
def Decided (bindings : Variables) (condition : String) : Prop :=
  ∀ clause ∈ clauses condition, ∀ subject template, clause? clause = some (subject, template) →
    ∀ failure, holds bindings subject template = .error failure → failure.isAssertion = true

def isAnswered : Except Failure Unit → Bool
  | .ok () => true
  | .error failure => failure.isAssertion

theorem isAnswered_iff {compared : Except Failure Unit} : isAnswered compared = true ↔
    ∀ failure, compared = .error failure → failure.isAssertion = true := by
  cases compared <;> simp [isAnswered]

instance (bindings : Variables) (condition : String) : Decidable (Decided bindings condition) :=
  decidable_of_iff ((clauses condition).all fun clause => (clause? clause).all fun found =>
      isAnswered (holds bindings found.1 found.2)) <| by
    simp only [List.all_eq_true, Option.all_eq_true, isAnswered_iff, Prod.forall, Decided]

theorem exists_check_of_decided {bindings : Variables} {condition : String}
    (decided : Decided bindings condition) :
    (Met bindings condition ∧ check bindings condition = .met) ∨
    (¬ Met bindings condition ∧ ∃ clause ∈ clauses condition,
      check bindings condition = .unmet (String.ofList clause)) := by
  by_cases met : Met bindings condition
  · exact .inl ⟨met, check_of_met met⟩
  · rcases exists_first_unmet met with ⟨clause, failure, checked, unmet⟩
    rcases unmet.first with ⟨before, behind, split, -⟩
    rcases unmet.fails with ⟨subject, template, shape, compared⟩
    have inside : clause ∈ clauses condition := by simp [split]
    have assertion := decided clause inside subject template shape failure compared
    exact .inr ⟨met, clause, inside, by simpa [verdict, assertion] using checked⟩

theorem met_congr_of_perm {bindings : Variables} {condition other : String}
    (same : (clauses condition).Perm (clauses other)) :
    Met bindings condition ↔ Met bindings other :=
  forall_congr' fun _ => by rw [same.mem_iff]

theorem decided_congr_of_perm {bindings : Variables} {condition other : String}
    (same : (clauses condition).Perm (clauses other)) :
    Decided bindings condition ↔ Decided bindings other :=
  forall_congr' fun _ => by rw [same.mem_iff]

end Condition

/-! ## Runs -/

def World.unnoted {T A M : Type} (world : World T A M) : World T A M := { world with log := [] }

variable {T A M : Type} [ClockTime T]

/-- A condition whose parts are joined is the row of its parts: a run behind it ends in the same result
and the same world, whatever its parts are, and calls the action in the same worlds. Clauses in another
order change none of this, as long as each of them can be compared, but for the note of an unmet clause. -/
theorem evaluate_joint (bound : Nat) (perform : Effect (World T A M) Unit) (action : A)
    (rest : List Rule) :
    (∀ (first second : String) (world : World T A M),
      evaluate bound perform action (.conditionalSkip (first ++ Condition.joint ++ second) :: rest)
          world =
        evaluate bound perform action (.conditionalSkip first :: .conditionalSkip second :: rest)
          world ∧
      Event.calls (history bound perform action
          (.conditionalSkip (first ++ Condition.joint ++ second) :: rest) world) =
        Event.calls (history bound perform action
          (.conditionalSkip first :: .conditionalSkip second :: rest) world)) ∧
    ∀ (condition other : String) (world : World T A M),
      (Condition.clauses condition).Perm (Condition.clauses other) →
      Condition.Decided world.bindings condition →
      (evaluate bound perform action (.conditionalSkip condition :: rest) world).map
          (fun ended => (ended.1, ended.2.unnoted)) =
        (evaluate bound perform action (.conditionalSkip other :: rest) world).map
          (fun ended => (ended.1, ended.2.unnoted)) ∧
      Event.calls (history bound perform action (.conditionalSkip condition :: rest) world) =
        Event.calls (history bound perform action (.conditionalSkip other :: rest) world) := by
  constructor
  · intro first second world
    simp only [evaluate, history, Condition.check_joint, Event.calls_checked]
    cases Condition.check world.bindings first with
    | met => exact ⟨rfl, rfl⟩
    | unmet clause => exact ⟨rfl, rfl⟩
    | failed failure => exact ⟨rfl, rfl⟩
  · intro condition other world same decided
    have others := (Condition.decided_congr_of_perm same).mp decided
    have met : Condition.Met world.bindings condition ↔ Condition.Met world.bindings other :=
      Condition.met_congr_of_perm same
    simp only [evaluate, history, Event.calls_checked]
    rcases Condition.exists_check_of_decided decided with ⟨all, checked⟩ | ⟨some, clause, -, checked⟩ <;>
      rcases Condition.exists_check_of_decided others with ⟨all', checked'⟩ | ⟨some', clause', -, checked'⟩
    · simp only [checked, checked', and_self]
    · exact absurd (met.mp all) some'
    · exact absurd (met.mpr all') some
    · simp only [checked, checked', and_true]
      rfl

theorem evaluate_joint_failing :
    (Condition.clauses "bob == ann & && bob == bob").Perm
      (Condition.clauses "bob == bob&& bob == ann &") ∧
    Condition.Decided [] "bob == ann & && bob == bob" ∧
    (evaluate 0 failing () [.conditionalSkip "bob == ann & && bob == bob"] startingWorld).map
        (fun ended => (ended.1, ended.2.unnoted)) =
      (evaluate 0 failing () [.conditionalSkip "bob == bob&& bob == ann &"] startingWorld).map
        (fun ended => (ended.1, ended.2.unnoted)) ∧
    Event.calls (history 0 failing () [.conditionalSkip "bob == ann &", .conditionalSkip "bob == bob"]
      startingWorld) = [] := by
  have clauses : Condition.clauses "bob == ann & && bob == bob" =
      ["bob == ann &".toList, "bob == bob".toList] := by decide +kernel
  have swapped : Condition.clauses "bob == bob&& bob == ann &" =
      ["bob == bob".toList, "bob == ann &".toList] := by decide +kernel
  have same : (Condition.clauses "bob == ann & && bob == bob").Perm
      (Condition.clauses "bob == bob&& bob == ann &") := by
    rw [clauses, swapped]
    exact .swap _ _ _
  have decided : Condition.Decided [] "bob == ann & && bob == bob" := by decide +kernel
  have joint := evaluate_joint 0 failing () []
  have unmet : ¬ Condition.Met [] "bob == ann & && bob == bob" := by
    intro met
    have listed : "bob == ann &".toList ∈ Condition.clauses "bob == ann & && bob == bob" := by
      simp [clauses]
    have shape : Condition.clause? "bob == ann &".toList = some ("bob", "== ann &") := by decide +kernel
    have other : (Condition.holds [] "bob" "== ann &").isOk = false := by decide +kernel
    rw [met _ listed _ _ shape] at other
    cases other
  have uncalled : Event.calls (history 0 failing ()
      [.conditionalSkip "bob == ann & && bob == bob"] startingWorld) = [] := by
    have bindings : startingWorld.bindings = [] := rfl
    rw [history, Event.calls_checked, bindings]
    rcases Condition.exists_check_of_decided decided with ⟨met, -⟩ | ⟨-, clause, -, checked⟩
    · exact absurd met unmet
    · rw [checked]
      rfl
  refine ⟨same, decided, (joint.2 _ _ startingWorld same decided).1, ?_⟩
  rw [← (joint.1 "bob == ann &" "bob == bob" startingWorld).2]
  exact uncalled

end GuardedSteps
