import GuardedSteps.Proofs.Comparison.Order
import GuardedSteps.Proofs.Value
import Mathlib.Data.List.FinRange
import Mathlib.Data.List.NodupEquivFin

/-!
What a successful comparison says. A value fits an expected one when a flag holds of it, when it is
equal to a value without parts, when the values of a mapping fit key by key, or when the elements of a
collection can be put in the places of the expected ones so that each fits. A value that meets an
expected one fits it at every depth.
-/

namespace GuardedSteps

namespace Comparison

def IsPlain : Value → Prop
  | .text text => flag? text = none
  | .mapping _ | .collection _ _ => False
  | _ => True

structure SameKeys (actual expected : List (Value × Value)) : Prop where
  known : ∀ entry ∈ actual, ∃ other, Value.entryAt? expected entry.1 = some other
  present : ∀ entry ∈ expected, ∃ other, Value.entryAt? actual entry.1 = some other

/-- A value fits an expected one. -/
inductive Fits : (actual expected : Value) → Prop
  | flag {actual : Value} {text flag : String} (isFlag : flag? text = some flag)
      (holds : satisfies actual flag = .ok true) : Fits actual (.text text)
  | mapping {actual expected : List (Value × Value)} (keys : SameKeys actual expected)
      (values : ∀ entry ∈ expected, ∀ found, Value.entryAt? actual entry.1 = some found →
        Fits found.2 entry.2) : Fits (.mapping actual) (.mapping expected)
  /-- Each expected element has a place among the actual ones, and each of these is such a place. -/
  | collection {shape other : Shape} {actual expected : List Value}
      (place : Fin expected.length ≃ Fin actual.length)
      (elements : ∀ index, Fits (actual.get (place index)) (expected.get index)) :
      Fits (.collection shape actual) (.collection other expected)
  | plain {actual expected : Value} (isPlain : IsPlain expected)
      (equal : isEqual actual expected = .ok true) : Fits actual expected

/-! ## Places -/

/-- What is paired with the elements of a reordered row has places in the row itself. -/
theorem exists_places {α β : Type} {related : α → β → Prop} {items paired : List α} {expected : List β}
    (same : items.Perm paired) (pairs : List.Forall₂ related paired expected) :
    ∃ place : Fin expected.length ≃ Fin items.length,
      ∀ index, related (items.get (place index)) (expected.get index) := by
  have own : List.Forall₂ (fun index item => items.get index = item) (List.finRange items.length)
      items := by
    rw [List.forall₂_iff_get]
    simp
  have arranged := (congrFun (congrFun (List.forall₂_comp_perm_eq_perm_comp_forall₂
    (r := fun index item => items.get index = item)) (List.finRange items.length)) paired).mp
    ⟨items, own, same⟩
  rcases arranged with ⟨order, every, located⟩
  have distinct : order.Nodup := every.nodup_iff.mp (List.nodup_finRange _)
  have complete : ∀ index, index ∈ order := fun index => every.mem_iff.mp (List.mem_finRange index)
  have size : expected.length = order.length :=
    pairs.length_eq.symm.trans located.length_eq.symm
  refine ⟨(finCongr size).trans (distinct.getEquivOfForallMemList order complete), fun index => ?_⟩
  have inside : index.val < paired.length := index.isLt.trans_eq pairs.length_eq.symm
  have found := located.get (inside.trans_eq located.length_eq.symm) inside
  have fits := pairs.get inside index.isLt
  rw [← found] at fits
  exact fits

/-! ## Successful comparisons -/

theorem ok_of_fail {α : Type} {mismatch : Mismatch} {value : α} : fail mismatch ≠ .ok value := by
  unfold fail
  split
  · nofun
  · nofun

theorem required_eq_ok_iff {test : Except Fault Bool} {mismatch : Mismatch} :
    (test >>= fun holds => if holds = true then pure () else fail mismatch) = .ok () ↔
      test = .ok true := by
  cases test with
  | error fault => simp [bind, Except.bind]
  | ok holds =>
      cases holds with
      | true => exact ⟨fun _ => rfl, fun _ => rfl⟩
      | false => exact ⟨fun failed => absurd failed ok_of_fail, fun same => by cases same⟩

theorem haveSameKeys_iff {actual expected : List (Value × Value)} :
    haveSameKeys actual expected = true ↔ SameKeys actual expected := by
  simp only [haveSameKeys, Bool.and_eq_true, List.all_eq_true, Option.isSome_iff_exists]
  exact ⟨fun both => ⟨both.1, both.2⟩, fun same => ⟨same.known, same.present⟩⟩

theorem meetsEntries_eq_ok_iff {actual expected : List (Value × Value)} :
    meetsEntries actual expected = .ok () ↔
      ∀ entry ∈ expected, ∀ found, Value.entryAt? actual entry.1 = some found →
        Meets found.2 entry.2 := by
  induction expected with
  | nil => simp [meetsEntries]
  | cons entry rest induction =>
      rcases entry with ⟨key, value⟩
      rw [meetsEntries, List.forall_mem_cons, ← induction]
      cases Value.entryAt? actual key with
      | none => simp [bind, Except.bind]
      | some found =>
          simp only [Option.some.injEq, forall_eq']
          unfold Meets
          cases meets found.2 value with
          | ok => simp [bind, Except.bind]
          | error fault => simp [bind, Except.bind]

theorem meets_flag_iff {actual : Value} {text flag : String} (isFlag : flag? text = some flag) :
    Meets actual (.text text) ↔ satisfies actual flag = .ok true := by
  rw [Meets, meets, meetsText, isFlag]
  exact required_eq_ok_iff

theorem meets_eq_meetsPlainly {actual expected : Value} (isPlain : IsPlain expected) :
    meets actual expected = meetsPlainly actual expected := by
  cases expected with
  | text text =>
      have noFlag : flag? text = none := isPlain
      rw [meets, meetsText, noFlag]
  | mapping => exact isPlain.elim
  | collection => exact isPlain.elim
  | _ => rw [meets] <;> simp

theorem meets_plain_iff {actual expected : Value} (isPlain : IsPlain expected) :
    Meets actual expected ↔ isEqual actual expected = .ok true := by
  rw [Meets, meets_eq_meetsPlainly isPlain]
  exact required_eq_ok_iff

theorem meets_mapping_iff {actual : Value} {expected : List (Value × Value)} :
    Meets actual (.mapping expected) ↔
      ∃ entries, actual = .mapping entries ∧ SameKeys entries expected ∧
        meetsEntries entries expected = .ok () := by
  rw [Meets, meets]
  cases actual with
  | mapping entries =>
      change (if haveSameKeys entries expected then _ else _) = _ ↔ _
      simp only [← haveSameKeys_iff, Value.mapping.injEq, exists_eq_left']
      split
      · next same => simp [same]
      · next other => simp [other, ok_of_fail]
  | _ =>
      refine ⟨fun failed => absurd failed ok_of_fail, fun same => ?_⟩
      rcases same with ⟨entries, other, -⟩
      cases other

theorem exists_items_of_meets {actual : Value} {shape : Shape} {expected : List Value}
    (met : Meets actual (.collection shape expected)) : ∃ other items, actual = .collection other items := by
  rw [Meets, meets] at met
  cases actual with
  | collection other items => exact ⟨other, items, rfl⟩
  | _ => exact absurd met ok_of_fail

/-- A value that meets an expected one fits it: flags hold, mappings have the same keys and values that
fit, and the elements of a collection have been put in the places of the expected ones. -/
theorem fits_of_meets {actual expected : Value} (met : Meets actual expected) : Fits actual expected := by
  have plainly {actual expected : Value} (met : Meets actual expected) (isPlain : IsPlain expected) :
      Fits actual expected := .plain isPlain ((meets_plain_iff isPlain).mp met)
  induction expected using Value.byParts generalizing actual with
  | text text =>
      cases isFlag : flag? text with
      | some flag => exact .flag isFlag ((meets_flag_iff isFlag).mp met)
      | none => exact plainly met isFlag
  | mapping expected values =>
      rcases meets_mapping_iff.mp met with ⟨entries, rfl, keys, met⟩
      refine .mapping keys fun entry member found known => ?_
      exact values entry member (meetsEntries_eq_ok_iff.mp met entry member found known)
  | collection shape expected elements =>
      rcases exists_items_of_meets met with ⟨other, items, rfl⟩
      rcases meets_collection_iff.mp met with ⟨size, met⟩
      rcases pairs_of_meetsItems size met with ⟨paired, same, met⟩
      rcases exists_places same met with ⟨place, met⟩
      exact .collection place fun index => elements _ (List.get_mem _ _) (met index)
  | null | flag | integer | double | bytes | object => exact plainly met trivial

theorem fits_nested :
    let actual : Value := .collection .list [.text "cd", .mapping [(.text "k", .integer 2),
      (.text "l", .collection .set [.text "x", .null])], .double 0.5]
    let expected : Value := .collection .tuple [.text " 0.50 ", .text "?e c.",
      .mapping [(.text "l", .collection .list [.text "null", .text "?not y"]), (.text "k", .text "?> 1")]]
    Meets actual expected ∧ Fits actual expected := by
  intro actual expected
  have met : Meets actual expected := by decide +kernel
  exact ⟨met, fits_of_meets met⟩

end Comparison

end GuardedSteps
