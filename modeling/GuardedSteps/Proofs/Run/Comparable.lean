import GuardedSteps.Proofs.Comparison.Datum
import GuardedSteps.Proofs.Run.Conjunction
import GuardedSteps.Proofs.Template

/-!
Data in conditions. Data whose whole numbers are doubles are equal or their comparison fails with an
assertion. So a condition on such data is met, or the step is skipped; and among several candidates the
search for one goes on behind each that is not equal. A whole number beyond all doubles is at fault itself,
and all of this fails with it.
-/

namespace GuardedSteps

open Comparison

/-! ## Assertions -/

theorem exists_assertion_of_decided {compared : Except Fault Unit} (decided : Comparison.Decided compared) :
    compared = .ok () ∨ ∃ fault, compared = .error fault ∧
      (Failure.comparison fault).type = .guardAssertionError := by
  match compared with
  | .ok () => exact .inl rfl
  | .error (.mismatch mismatch) => exact .inr ⟨_, rfl, rfl⟩
  | .error (.value _) => exact decided.elim
  | .error (.pattern _) => exact decided.elim

theorem Failure.isAssertion_of_type {failure : Failure} (same : failure.type = .guardAssertionError) :
    failure.isAssertion = true := by
  rw [isAssertion, same]
  decide

namespace Condition

/-- Each clause of the condition compares a datum with a flag that is no pattern. -/
def Comparable (bindings : Variables) (condition : String) : Prop :=
  ∀ clause ∈ clauses condition, ∀ subject template, clause? clause = some (subject, template) →
    ∃ value flag, bindings.getOrSelf subject = .ok value ∧
      Template.resolveFlag bindings template = .ok flag ∧
      IsDatum Convertible (fun _ => True) (fun _ => True) value ∧
      ∀ operand, operation? flag ≠ some (.pattern, operand)

theorem decided_of_comparable {bindings : Variables} {condition : String}
    (comparable : Comparable bindings condition) : Decided bindings condition := by
  intro clause member subject template shape failure failed
  rcases comparable clause member subject template shape with ⟨value, flag, leads, filled, datum, noPattern⟩
  have decided := datum.decided_flag (flag?_bare flag) noPattern
  rw [holds_of_resolved leads filled] at failed
  rcases exists_assertion_of_decided decided with met | ⟨fault, compared, assertion⟩
  · rw [met] at failed
    cases failed
  · rw [compared] at failed
    cases failed
    exact Failure.isAssertion_of_type assertion

end Condition

/-! ## A whole number in a condition -/

namespace Condition

theorem holds_of_not_convertible {value : Int} (beyond : ¬ Convertible value) {bindings : Variables}
    {subject template flag operand : String} (leads : bindings.getOrSelf subject = .ok (.integer value))
    (filled : Template.resolveFlag bindings template = .ok flag)
    (equal : operation? flag = some (.equal, operand)) :
    holds bindings subject template = .error (.comparison (.value .beyondDoubles)) := by
  have satisfied : satisfies (.integer value) flag = .error (.value .beyondDoubles) := by
    rw [satisfies, equal]
    exact isEqual_of_not_convertible beyond _
  rw [holds_of_resolved leads filled, meets, meetsText, flag?_bare]
  simp only [satisfied]
  rfl

theorem clauses_equalsOne : clauses "n == 1" = ["n == 1".toList] := by decide +kernel

theorem clause?_equalsOne : clause? "n == 1".toList = some ("n", "== 1") := by decide +kernel

theorem operation?_equalsOne : operation? "== 1" = some (.equal, "1") := by decide +kernel

theorem resolveFlag_equalsOne (bindings : Variables) :
    Template.resolveFlag bindings "== 1" = .ok "== 1" := by
  have plain : "== 1".toList.all (!Template.isBrace ·) = true := by decide +kernel
  exact Template.resolveFlag_of_plain (by simpa using plain)

theorem comparable_equalsOne {value : Int} (convertible : Convertible value) :
    Comparable [("n", .integer value)] "n == 1" := by
  intro clause member subject template written
  rw [clauses_equalsOne, List.mem_singleton] at member
  subst member
  cases clause?_equalsOne.symm.trans written
  refine ⟨_, _, rfl, resolveFlag_equalsOne _, .integer convertible, fun operand pattern => ?_⟩
  cases operation?_equalsOne.symm.trans pattern

theorem holds_of_met_equalsOne {bindings : Variables} (met : Met bindings "n == 1") :
    holds bindings "n" "== 1" = .ok () :=
  met _ (by rw [clauses_equalsOne]; exact List.mem_singleton_self _) _ _ clause?_equalsOne

theorem check_equalsOne_of_not_convertible {value : Int} (beyond : ¬ Convertible value) :
    check [("n", .integer value)] "n == 1" = .failed (.comparison (.value .beyondDoubles)) := by
  have leads : Variables.getOrSelf [("n", .integer value)] "n" = .ok (.integer value) := rfl
  have fails := holds_of_not_convertible beyond leads (resolveFlag_equalsOne _) operation?_equalsOne
  have trimmed : Text.trim "n == 1".toList = "n == 1".toList := by decide +kernel
  rw [check_eq, clauses_equalsOne, checkClauses, trimmed, clause?_equalsOne]
  simp only [fails]
  rfl

end Condition

/-! ## Data in comparisons, searches and conditions -/

variable {T A M : Type} [ClockTime T]

/-- Data without flags whose whole numbers are doubles are compared successfully or with an assertion, so
that the search for a candidate finds one if there is one; and a condition on such data lets the run go on
if it is met, and skips the step if it is not. -/
theorem data_compared (bound : Nat) (perform : Effect (World T A M) Unit) (action : A) (rest : List Rule) :
    (∀ actual expected, IsDatum Convertible (fun _ => True) (fun _ => True) actual →
      IsDatum Convertible (fun _ => True) Flagless expected →
      meets actual expected = .ok () ∨ ∃ fault, meets actual expected = .error fault ∧
        (Failure.comparison fault).type = .guardAssertionError) ∧
    (∀ candidates item, (∀ candidate ∈ candidates, IsDatum Convertible (fun _ => True) (fun _ => True) candidate) →
      IsDatum Convertible (fun _ => True) Flagless item →
      ∃ found, takeMatch (meets · item) candidates = .ok found ∧
        (found = none ↔ ∀ candidate ∈ candidates, ¬ Meets candidate item)) ∧
    ∀ (condition : String) (world : World T A M), Condition.Comparable world.bindings condition →
      (Condition.Met world.bindings condition ∧
        evaluate bound perform action (.conditionalSkip condition :: rest) world =
          evaluate bound perform action rest world) ∨
      (¬ Condition.Met world.bindings condition ∧ ∃ clause ∈ Condition.clauses condition,
        evaluate bound perform action (.conditionalSkip condition :: rest) world =
          some (.ok .skipped, world.note (.unmet (String.ofList clause)))) := by
  refine ⟨fun actual expected datum expectation => ?_, fun candidates item data expectation => ?_,
    fun condition world comparable => ?_⟩
  · exact exists_assertion_of_decided (datum.decided expectation)
  · exact exists_takeMatch_iff fun candidate member => (data candidate member).decided expectation
  · rcases Condition.exists_check_of_decided (Condition.decided_of_comparable comparable) with
      ⟨met, checked⟩ | ⟨unmet, clause, member, checked⟩
    · exact .inl ⟨met, by simp only [evaluate, checked]⟩
    · exact .inr ⟨unmet, clause, member, by simp only [evaluate, checked]⟩

theorem data_compared_large :
    let large : Value := .integer 1000000000000000000000000000000
    let world := { startingWorld with bindings := [("n", large)] }
    (∃ fault, meets large (.collection .list [large]) = .error fault ∧
      (Failure.comparison fault).type = .guardAssertionError) ∧
    (∃ left, takeMatch (meets · (.text "x")) [large, .text "x"] = .ok (some left)) ∧
    ∃ clause, evaluate 0 failing () [.conditionalSkip "n == 1"] world =
      some (.ok .skipped, world.note (.unmet (String.ofList clause))) := by
  intro large world
  have convertible : Convertible 1000000000000000000000000000000 := by decide +kernel
  have datum {admitted : String → Prop} : IsDatum Convertible (fun _ => True) admitted large :=
    .integer convertible
  rcases data_compared 0 failing () [] with ⟨pairs, searches, conditions⟩
  refine ⟨?_, ?_, ?_⟩
  · have unequal : ¬ Meets large (.collection .list [large]) := by decide +kernel
    exact (pairs _ _ datum (.collection (.inl rfl) (List.forall_mem_singleton.mpr datum))).resolve_left unequal
  · have flagless : Flagless "x" := by decide +kernel
    have data : ∀ candidate ∈ [large, .text "x"],
        IsDatum Convertible (fun _ => True) (fun _ => True) candidate :=
      List.forall_mem_cons.mpr ⟨datum, List.forall_mem_singleton.mpr (.text trivial)⟩
    have equal : Meets (.text "x") (.text "x") := by decide +kernel
    rcases searches [large, .text "x"] (.text "x") data (.text flagless) with ⟨found, taken, none⟩
    cases found with
    | none => exact absurd equal (none.mp rfl _ (by simp))
    | some left => exact ⟨left, taken⟩
  · have other : (Condition.holds [("n", large)] "n" "== 1").isOk = false := by decide +kernel
    rcases conditions "n == 1" world (Condition.comparable_equalsOne convertible) with
      ⟨met, -⟩ | ⟨-, clause, -, skipped⟩
    · rw [Condition.holds_of_met_equalsOne met] at other
      cases other
    · exact ⟨clause, skipped⟩

/-- A whole number beyond all doubles is a datum. Its comparison with one fails by another error, which
ends the search in front of the candidate that is equal, and fails the step. -/
theorem not_compared_of_not_convertible {value : Int} (beyond : ¬ Convertible value) (bound : Nat)
    (perform : Effect (World T A M) Unit) (action : A) (rest : List Rule) (world : World T A M) :
    IsDatum (fun _ => True) (fun _ => True) Flagless (.integer value) ∧
    meets (.integer value) (.integer 1) = .error (.value .beyondDoubles) ∧
    (Failure.comparison (.value .beyondDoubles)).type = .overflowError ∧
    takeMatch (meets · (.integer 1)) [.integer value, .integer 1] = .error (.value .beyondDoubles) ∧
    evaluate bound perform action (.conditionalSkip "n == 1" :: rest)
        { world with bindings := [("n", .integer value)] } =
      some (.ok (.failed (.comparison (.value .beyondDoubles))),
        { world with bindings := [("n", .integer value)] }) := by
  have compared : meets (.integer value) (.integer 1) = .error (.value .beyondDoubles) :=
    meets_of_not_convertible beyond trivial
  have checked := Condition.check_equalsOne_of_not_convertible beyond
  refine ⟨.integer trivial, compared, rfl, ?_, ?_⟩
  · simp only [takeMatch, compared]
  · simp only [evaluate, checked]

/-- The whole number of four hundred and one digits. -/
theorem not_compared_oneWithZeros :
    let large : Value := .integer (oneWithZeros 400)
    let world := { startingWorld with bindings := [("n", large)] }
    IsDatum (fun _ => True) (fun _ => True) Flagless large ∧
    meets large (.integer 1) = .error (.value .beyondDoubles) ∧
    (Failure.comparison (.value .beyondDoubles)).type = .overflowError ∧
    takeMatch (meets · (.integer 1)) [large, .integer 1] = .error (.value .beyondDoubles) ∧
    evaluate 0 failing () [.conditionalSkip "n == 1"] world =
      some (.ok (.failed (.comparison (.value .beyondDoubles))), world) :=
  not_compared_of_not_convertible (not_convertible_oneWithZeros (by decide)) 0 failing () [] startingWorld

end GuardedSteps
