import GuardedSteps.Comparison.AnyOrder
import Mathlib.Data.List.Perm.Basic

/-!
The order of elements in a comparison of collections. Each expected element takes the first candidate
that meets it and never gives it back, so the order counts when one candidate is wanted by two
expected elements of which another candidate meets only one. Where this does not happen, the order
does not count.
-/

namespace GuardedSteps

namespace Comparison

/-! ## Comparisons that come to an answer -/

def Meets (actual expected : Value) : Prop := meets actual expected = .ok ()

/-- A comparison that tells whether the value meets the expected one, and does not fail otherwise. -/
def Decided : Except Fault Unit → Prop
  | .ok () | .error (.mismatch _) => True
  | .error (.value _) | .error (.pattern _) => False

instance : DecidablePred Decided := fun compared => by
  unfold Decided
  split <;> infer_instance

instance (actual expected : Value) : Decidable (Meets actual expected) :=
  match compared : meets actual expected with
  | .ok () => isTrue compared
  | .error _ => isFalse fun met => by
      rw [Meets, compared] at met
      cases met

/-- The candidates of a collection and its expected elements, when no order of theirs is better than
another. -/
structure Unambiguous (actual expected : List Value) : Prop where
  decided : ∀ candidate ∈ actual, ∀ item ∈ expected, Decided (meets candidate item)
  alike : ∀ first ∈ actual, ∀ second ∈ actual, ∀ item ∈ expected, ∀ other ∈ expected,
    Meets first item → Meets second item → Meets first other → Meets second other

instance (actual expected : List Value) : Decidable (Unambiguous actual expected) :=
  decidable_of_iff
    ((∀ candidate ∈ actual, ∀ item ∈ expected, Decided (meets candidate item)) ∧
      ∀ first ∈ actual, ∀ second ∈ actual, ∀ item ∈ expected, ∀ other ∈ expected,
        Meets first item → Meets second item → Meets first other → Meets second other)
    ⟨fun both => ⟨both.1, both.2⟩, fun unambiguous => ⟨unambiguous.decided, unambiguous.alike⟩⟩

/-! ## Taking candidates -/

theorem exists_perm_of_takeMatch {test : Value → Except Fault Unit} {candidates left : List Value}
    (taken : takeMatch test candidates = .ok (some left)) :
    ∃ found, test found = .ok () ∧ candidates.Perm (found :: left) := by
  induction candidates generalizing left with
  | nil => cases taken
  | cons candidate rest induction =>
      rw [takeMatch] at taken
      split at taken
      · next passed =>
        cases taken
        exact ⟨candidate, passed, .refl _⟩
      · cases later : takeMatch test rest with
        | error fault =>
            rw [later] at taken
            cases taken
        | ok found =>
            rw [later] at taken
            cases found with
            | none => cases taken
            | some others =>
                cases taken
                rcases induction later with ⟨found, passed, same⟩
                exact ⟨found, passed, (same.cons candidate).trans (.swap found candidate others)⟩
      · cases taken

theorem exists_takeMatch {test : Value → Except Fault Unit} {candidates : List Value}
    (decided : ∀ candidate ∈ candidates, Decided (test candidate))
    (passing : ∃ candidate ∈ candidates, test candidate = .ok ()) :
    ∃ left, takeMatch test candidates = .ok (some left) := by
  induction candidates with
  | nil =>
      rcases passing with ⟨candidate, member, -⟩
      cases member
  | cons candidate rest induction =>
      rcases List.forall_mem_cons.mp decided with ⟨own, others⟩
      rw [takeMatch]
      cases tested : test candidate with
      | ok => exact ⟨rest, rfl⟩
      | error fault =>
          cases fault with
          | mismatch mismatch =>
              rcases passing with ⟨found, member, passed⟩
              have behind : found ∈ rest := by
                rcases List.mem_cons.mp member with rfl | behind
                · cases tested.symm.trans passed
                · exact behind
              rcases induction others ⟨found, behind, passed⟩ with ⟨left, taken⟩
              exact ⟨candidate :: left, by rw [taken]; rfl⟩
          | value fault =>
              rw [tested] at own
              cases own
          | pattern obstacle =>
              rw [tested] at own
              cases own

/-! ## Pairings -/

/-- The candidates can be paired with the expected elements that they meet, and none is left. -/
def Pairs (actual expected : List Value) : Prop :=
  ∃ paired, actual.Perm paired ∧ List.Forall₂ Meets paired expected

theorem Pairs.perm {actual other expected further : List Value} (pairs : Pairs actual expected)
    (reordered : actual.Perm other) (rearranged : expected.Perm further) : Pairs other further := by
  rcases pairs with ⟨paired, same, met⟩
  have arranged := (congrFun (congrFun
    (List.forall₂_comp_perm_eq_perm_comp_forall₂ (r := Meets)) paired) further).mp
    ⟨expected, met, rearranged⟩
  rcases arranged with ⟨again, moved, met⟩
  exact ⟨again, reordered.symm.trans (same.trans moved), met⟩

/-- In a pairing, one candidate can be put in the place of another one that it can replace. -/
theorem exists_replaced {paired expected : List Value} (met : List.Forall₂ Meets paired expected)
    {old new : Value} (member : old ∈ paired)
    (replaces : ∀ item ∈ expected, Meets old item → Meets new item) :
    ∃ again, List.Forall₂ Meets again expected ∧ (new :: paired).Perm (old :: again) := by
  induction met with
  | nil => cases member
  | @cons first item rest items own others induction =>
      rcases List.mem_cons.mp member with rfl | member
      · exact ⟨new :: rest, .cons (replaces item (by simp) own) others, .swap _ _ _⟩
      · rcases induction member fun item inside => replaces item (List.mem_cons_of_mem _ inside)
          with ⟨again, met, same⟩
        refine ⟨first :: again, .cons own met, ?_⟩
        calc (new :: first :: rest).Perm (first :: new :: rest) := .swap _ _ _
          _ |>.Perm (first :: old :: again) := same.cons first
          _ |>.Perm (old :: first :: again) := .swap _ _ _

/-! ## The comparison finds a pairing -/

theorem meetsItems_cons_of_taken {whole item : Value} {remaining left expected : List Value}
    (taken : takeMatch (meets · item) remaining = .ok (some left)) :
    meetsItems whole remaining (item :: expected) = meetsItems whole left expected := by
  rw [meetsItems, taken]
  rfl

/-- Elements that are compared successfully have been paired. -/
theorem pairs_of_meetsItems {whole : Value} {remaining expected : List Value}
    (size : remaining.length = expected.length) (met : meetsItems whole remaining expected = .ok ()) :
    Pairs remaining expected := by
  induction expected generalizing remaining with
  | nil =>
      rw [List.length_eq_zero_iff.mp size]
      exact ⟨[], .refl _, .nil⟩
  | cons item rest induction =>
      cases taken : takeMatch (meets · item) remaining with
      | error fault =>
          rw [meetsItems, taken] at met
          cases met
      | ok found =>
          cases found with
          | none =>
              rw [meetsItems, taken] at met
              change fail _ = _ at met
              unfold fail at met
              split at met <;> cases met
          | some left =>
              rw [meetsItems_cons_of_taken taken] at met
              rcases exists_perm_of_takeMatch taken with ⟨found, own, same⟩
              have fewer : left.length = rest.length := by
                have := same.length_eq
                simp only [List.length_cons] at this size
                omega
              rcases induction fewer met with ⟨paired, others, met⟩
              exact ⟨found :: paired, same.trans (others.cons found), .cons own met⟩

/-- Where no order is better than another, elements that can be paired are compared successfully:
whichever candidate an expected element takes, the one that it is paired with can stand in for it. -/
theorem meetsItems_of_pairs {whole : Value} {remaining expected : List Value}
    (unambiguous : Unambiguous remaining expected) (pairs : Pairs remaining expected) :
    meetsItems whole remaining expected = .ok () := by
  induction expected generalizing remaining with
  | nil => rw [meetsItems]
  | cons item rest induction =>
      rcases pairs with ⟨paired, same, met⟩
      cases met with
      | @cons partner _ others _ own met =>
          have inside : partner ∈ remaining := same.mem_iff.mpr (by simp)
          have decided : ∀ candidate ∈ remaining, Decided (meets candidate item) :=
            fun candidate member => unambiguous.decided candidate member item (by simp)
          rcases exists_takeMatch decided ⟨partner, inside, own⟩ with ⟨left, taken⟩
          rcases exists_perm_of_takeMatch taken with ⟨found, passed, split⟩
          rw [meetsItems_cons_of_taken taken]
          have fewer : Unambiguous left rest := by
            have kept : ∀ candidate ∈ left, candidate ∈ remaining := fun candidate member =>
              split.mem_iff.mpr (List.mem_cons_of_mem _ member)
            refine ⟨fun candidate member other inside => unambiguous.decided candidate
              (kept candidate member) other (List.mem_cons_of_mem _ inside), ?_⟩
            intro first firstLeft second secondLeft one oneInside other otherInside
            exact unambiguous.alike first (kept first firstLeft) second (kept second secondLeft)
              one (List.mem_cons_of_mem _ oneInside) other (List.mem_cons_of_mem _ otherInside)
          apply induction fewer
          have alternatives : (found :: left).Perm (partner :: others) := split.symm.trans same
          rcases List.mem_cons.mp (alternatives.mem_iff.mp (by simp : found ∈ found :: left)) with
            rfl | elsewhere
          · exact ⟨others, alternatives.cons_inv, met⟩
          · have foundInside : found ∈ remaining := split.mem_iff.mpr (by simp)
            rcases exists_replaced met elsewhere fun other member =>
              unambiguous.alike found foundInside partner inside item (by simp) other
                (List.mem_cons_of_mem _ member) passed own with ⟨again, met, replaced⟩
            exact ⟨again, (alternatives.trans replaced).cons_inv, met⟩

/-! ## Whole collections -/

theorem meets_collection_iff {shape other : Shape} {actual expected : List Value} :
    Meets (.collection shape actual) (.collection other expected) ↔
      actual.length = expected.length ∧
        meetsItems (.collection shape actual) actual expected = .ok () := by
  rw [Meets, meets]
  change (if actual.length = expected.length then _ else _) = _ ↔ _
  split
  · next size => simp [size]
  · next size =>
    unfold fail
    split <;> simp [size]

/-- Where no order is better than another, a collection that meets an expected one does so in every
order of its elements and of the expected ones. -/
theorem meets_perm {shape other : Shape} {actual reordered expected rearranged : List Value}
    (unambiguous : Unambiguous actual expected)
    (met : Meets (.collection shape actual) (.collection other expected))
    (sameActual : actual.Perm reordered) (sameExpected : expected.Perm rearranged) :
    Meets (.collection shape reordered) (.collection other rearranged) := by
  rcases meets_collection_iff.mp met with ⟨size, met⟩
  have pairs := (pairs_of_meetsItems size met).perm sameActual sameExpected
  have still : Unambiguous reordered rearranged := by
    refine ⟨fun candidate member item inside => unambiguous.decided candidate
      (sameActual.mem_iff.mpr member) item (sameExpected.mem_iff.mpr inside), ?_⟩
    intro first firstIn second secondIn item itemIn further furtherIn
    exact unambiguous.alike first (sameActual.mem_iff.mpr firstIn) second
      (sameActual.mem_iff.mpr secondIn) item (sameExpected.mem_iff.mpr itemIn) further
      (sameExpected.mem_iff.mpr furtherIn)
  refine meets_collection_iff.mpr ⟨?_, meetsItems_of_pairs still pairs⟩
  rw [← sameActual.length_eq, ← sameExpected.length_eq, size]

theorem meets_perm_flags :
    let actual : List Value := [.text "cd", .collection .list [.text "x", .text "y"],
      .mapping [(.text "k", .text "v")], .text "ab"]
    let expected : List Value := [.text "?contains a", .mapping [(.text "k", .text "?not w")],
      .collection .tuple [.text "y", .text "x"], .text "?e c."]
    Unambiguous actual expected ∧ Meets (.collection .list actual) (.collection .tuple expected) ∧
      Meets (.collection .list actual.reverse) (.collection .tuple expected.reverse) := by
  intro actual expected
  have unambiguous : Unambiguous actual expected := by decide +kernel
  have met : Meets (.collection .list actual) (.collection .tuple expected) := by decide +kernel
  exact ⟨unambiguous, met, meets_perm unambiguous met actual.reverse_perm.symm
    expected.reverse_perm.symm⟩

/-! ## Where the order counts -/

/-- A text that contains both wanted letters is taken for the first of them, and what is left does not
contain the second. -/
theorem order_counts_letters :
    let both : Value := .text "ab"
    let one : Value := .text "a"
    let expected : Value := .collection .list [.text "?contains a", .text "?contains b"]
    Meets (.collection .list [one, both]) expected ∧
      ¬ Meets (.collection .list [both, one]) expected := by
  decide +kernel

end Comparison

end GuardedSteps
