import GuardedSteps.Proofs.Comparison.Flag

/-!
Parts of a value. A list, a tuple or a set contains an operand when one of its elements is equal to it.
Of any other value the plain text is searched, and so it is of a frozen set, although a frozen set is
compared with its elements like the other collections.
-/

namespace GuardedSteps

namespace Comparison

open Number Text

/-! ## Searching the elements -/

theorem exists_anyEqual {items : List Value} (faultless : ∀ item ∈ items, Faultless item)
    (operand : String) : ∃ found, anyEqual operand items = .ok found ∧
      (found = true ↔ ∃ item ∈ items, isEqual item (.text operand) = .ok true) := by
  induction items with
  | nil => exact ⟨false, rfl, by simp⟩
  | cons item rest induction =>
      rcases List.forall_mem_cons.mp faultless with ⟨own, others⟩
      rcases exists_isEqual_text own operand with ⟨equal, compared⟩
      rw [anyEqual, compared]
      cases equal with
      | true => exact ⟨true, rfl, by simp [compared]⟩
      | false =>
          rcases induction others with ⟨found, searched, member⟩
          exact ⟨found, searched, by simp [compared, member]⟩

theorem hasPart_eq_anyEqual {shape : Shape} (searched : shape ≠ .frozenSet) (items : List Value)
    (operand : String) : hasPart (.collection shape items) operand = anyEqual operand items := by
  cases shape with
  | frozenSet => exact absurd rfl searched
  | _ => rfl

theorem Faultless.of_items {shape : Shape} {items : List Value}
    (faultless : ∀ item ∈ items, Faultless item) : Faultless (.collection shape items) :=
  ⟨⟨none, rfl⟩, isWritable_iff.mp (areWritable_iff.mpr fun item member =>
    (faultless item member).isWritable)⟩

theorem reported_hasPart {actual : Value} (faultless : Faultless actual)
    (items : ∀ row, actual.items? = some row → ∀ item ∈ row, Faultless item) (operand : String) :
    Reported (hasPart actual operand) := by
  have texts : Reported (do return occursIn operand.toList (← measured actual.asText).toList) := by
    rcases faultless.asText with ⟨text, plain⟩
    rw [plain]
    exact reported_ok (occursIn operand.toList text.toList)
  cases actual with
  | collection shape row =>
      by_cases frozen : shape = .frozenSet
      · subst frozen
        exact texts
      · rcases exists_anyEqual (items row rfl) operand with ⟨found, searched, -⟩
        rw [hasPart_eq_anyEqual frozen, searched]
        exact reported_ok found
  | _ => exact texts

/-- A list, a tuple or a set of values that can be compared contains an operand when one of its elements
is equal to the operand, and otherwise this is reported. -/
theorem contains_by_element {shape : Shape} (searched : shape ≠ .frozenSet) {items : List Value}
    (faultless : ∀ item ∈ items, Faultless item) (operand : String) :
    Decided (meets (.collection shape items) (.text (Operator.flag .contains operand))) ∧
      (Operator.MetBy .contains (.collection shape items) operand ↔
        ∃ item ∈ items, Operator.MetBy .equal item operand) := by
  have whole : Faultless (.collection shape items) := .of_items faultless
  constructor
  · refine decided_of_reported Operator.flag?_flag whole.isWritable ?_
    rw [Operator.satisfies_flag]
    refine reported_hasPart whole (fun row same => ?_) _
    cases same
    exact faultless
  · rcases exists_anyEqual faultless (trimmed operand) with ⟨found, answered, member⟩
    rw [Operator.metBy_iff, Operator.holds, hasPart_eq_anyEqual searched, answered, Except.ok.injEq, member]
    simp only [isEqual_trimmed, Operator.metBy_equal_iff]

theorem contains_by_element_tuple :
    let items : List Value := [.text "ab", .integer 12, .collection .frozenSet [.null]]
    (∀ item ∈ items, Faultless item) ∧ Operator.MetBy .contains (.collection .tuple items) " 1.2e1" ∧
      ¬ Operator.MetBy .contains (.collection .tuple items) "1" := by
  intro items
  have faultless : ∀ item ∈ items, Faultless item := by decide +kernel
  have equal : ∃ item ∈ items, Operator.MetBy .equal item " 1.2e1" := by decide +kernel
  have others : ¬ ∃ item ∈ items, Operator.MetBy .equal item "1" := by decide +kernel
  exact ⟨faultless, (contains_by_element (by decide) faultless _).2.mpr equal,
    fun met => others ((contains_by_element (by decide) faultless _).2.mp met)⟩

/-- A frozen set contains what only occurs in its text, and does not contain its element when that is
written in another way. -/
theorem frozenSet_by_text :
    (∀ item ∈ [Value.integer 12], Faultless item) ∧
    (Operator.MetBy .contains (.collection .frozenSet [.integer 12]) "1" ∧
      ¬ ∃ item ∈ [Value.integer 12], Operator.MetBy .equal item "1") ∧
    ¬ Operator.MetBy .contains (.collection .frozenSet [.integer 12]) "12.0" ∧
      ∃ item ∈ [Value.integer 12], Operator.MetBy .equal item "12.0" := by
  decide +kernel

end Comparison

end GuardedSteps
