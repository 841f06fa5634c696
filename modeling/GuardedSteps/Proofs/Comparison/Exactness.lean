import GuardedSteps.Proofs.Comparison.Tree
import GuardedSteps.Failure

/-!
Exact comparisons. Without flags, a tree meets an expected one when both have the same normal form, and
otherwise the comparison fails with an assertion. Whether two elements meet is then equality of their
forms, so no order of the elements is better than another.
-/

namespace GuardedSteps

namespace Comparison

open Number Text

/-! ## Comparisons that come to an answer -/

theorem decided_fail {mismatch : Mismatch} (writable : Value.areWritable mismatch.values = true) :
    Decided (fail mismatch) := by
  rw [fail, if_pos writable]
  trivial

theorem decided_meetsPlainly {actual expected : Value} {equal : Bool}
    (compared : isEqual actual expected = .ok equal)
    (writable : Value.areWritable [actual, expected] = true) : Decided (meetsPlainly actual expected) := by
  unfold meetsPlainly
  rw [compared]
  cases equal with
  | true => trivial
  | false => exact decided_fail writable

theorem exists_takeMatch_of_decided {test : Value → Except Fault Unit} {candidates : List Value}
    (decided : ∀ candidate ∈ candidates, Decided (test candidate)) :
    ∃ found, takeMatch test candidates = .ok found := by
  induction candidates with
  | nil => exact ⟨none, rfl⟩
  | cons candidate rest induction =>
      rcases List.forall_mem_cons.mp decided with ⟨own, others⟩
      rw [takeMatch]
      split
      · exact ⟨some rest, rfl⟩
      · rcases induction others with ⟨found, taken⟩
        rw [taken]
        exact ⟨_, rfl⟩
      · next fault other tested =>
        rw [tested] at own
        cases fault with
        | mismatch mismatch => exact absurd rfl (other mismatch)
        | value => exact own.elim
        | pattern => exact own.elim

theorem decided_meetsItems {whole : Value} {remaining expected : List Value}
    (decided : ∀ candidate ∈ remaining, ∀ item ∈ expected, Decided (meets candidate item))
    (writable : ∀ item ∈ expected, Value.areWritable [whole, item] = true) :
    Decided (meetsItems whole remaining expected) := by
  induction expected generalizing remaining with
  | nil =>
      rw [meetsItems]
      trivial
  | cons item rest induction =>
      rcases exists_takeMatch_of_decided (fun candidate member => decided candidate member item (by simp))
        with ⟨found, taken⟩
      cases found with
      | none =>
          rw [meetsItems, taken]
          exact decided_fail (writable item (by simp))
      | some left =>
          rcases exists_perm_of_takeMatch taken with ⟨found, passed, same⟩
          rw [meetsItems_cons_of_taken taken]
          refine induction (fun candidate member other inside => ?_)
            fun other inside => writable other (List.mem_cons_of_mem _ inside)
          exact decided candidate (same.mem_iff.mpr (List.mem_cons_of_mem _ member)) other
            (List.mem_cons_of_mem _ inside)

theorem decided_meetsEntries {actual expected : List (Value × Value)}
    (decided : ∀ entry ∈ expected, ∀ found, Value.entryAt? actual entry.1 = some found →
      Decided (meets found.2 entry.2)) : Decided (meetsEntries actual expected) := by
  induction expected with
  | nil =>
      rw [meetsEntries]
      trivial
  | cons entry rest induction =>
      rcases entry with ⟨key, value⟩
      rcases List.forall_mem_cons.mp decided with ⟨own, others⟩
      have others := induction others
      rw [meetsEntries]
      cases known : Value.entryAt? actual key with
      | none => exact others
      | some found =>
          have own := own found known
          change Decided (meets found.2 value >>= fun _ => meetsEntries actual rest)
          cases compared : meets found.2 value with
          | ok => exact others
          | error fault =>
              rw [compared] at own
              exact own

theorem decided_meets_collection {shape other : Shape} {actual expected : List Value}
    (decided : ∀ candidate ∈ actual, ∀ item ∈ expected, Decided (meets candidate item))
    (writable : (Value.collection shape actual).isWritable = true)
    (otherWritable : (Value.collection other expected).isWritable = true) :
    Decided (meets (.collection shape actual) (.collection other expected)) := by
  have parts : ∀ item ∈ expected, item.isWritable = true := areWritable_iff.mp otherWritable
  rw [meets]
  change Decided (if actual.length = expected.length then _ else _)
  split
  · exact decided_meetsItems decided
      fun item inside => areWritable_iff.mpr (by simp [writable, parts item inside])
  · exact decided_fail (areWritable_iff.mpr (by simp [Mismatch.values, writable, otherWritable]))

theorem decided_meets_mapping {entries others : List (String × Value)}
    (decided : ∀ entry ∈ entries, ∀ other ∈ others, Decided (meets entry.2 other.2)) :
    Decided (meets (.mapping (keyed entries)) (.mapping (keyed others))) := by
  rw [meets]
  change Decided (if haveSameKeys (keyed entries) (keyed others) then _ else _)
  split
  · refine decided_meetsEntries (forall_mem_keyed.mpr fun other inside found known => ?_)
    rw [entryAt?_keyed, Option.map_eq_some_iff] at known
    rcases known with ⟨value, known, rfl⟩
    exact decided _ (mem_of_lookup known) other inside
  · have written (row : List (String × Value)) : ∀ key ∈ (keyed row).map (·.1), key.isWritable = true :=
      List.forall_mem_map.mpr (forall_mem_keyed.mpr fun _ _ => rfl)
    exact decided_fail (areWritable_iff.mpr (List.forall_mem_append.mpr ⟨written _, written _⟩))

theorem decided_of_no_items {actual : Value} (noItems : actual.items? = none)
    (writable : actual.isWritable = true) {shape : Shape} {expected : List Value}
    (otherWritable : (Value.collection shape expected).isWritable = true) :
    Decided (meets actual (.collection shape expected)) := by
  rw [meets, noItems]
  exact decided_fail (areWritable_iff.mpr (by simp [Mismatch.values, writable, otherWritable]))

theorem decided_of_no_entries {actual : Value} (noEntries : actual.entries? = none)
    (writable : actual.isWritable = true) (expected : List (Value × Value)) :
    Decided (meets actual (.mapping expected)) := by
  rw [meets, noEntries]
  exact decided_fail (areWritable_iff.mpr (by simp [Mismatch.values, writable]))

/-! ## Exact comparisons -/

/-- The comparison comes to an answer, which is whether the two values have the same form. -/
structure Exact (actual expected : Value) : Prop where
  decided : Decided (meets actual expected)
  sameForm : Meets actual expected ↔ form false actual = form true expected

theorem isScalar_of_isPlain {value : Value} (isPlain : IsPlain value) : IsScalar value := by
  cases value with
  | mapping => exact isPlain
  | collection => exact isPlain
  | _ => trivial

theorem scalarForm_ne_of_bracket {actual expected : Value} (asNumber : actual.asNumber = .ok none)
    {c : Char} {rest : List Char} (front : actual.plain.toList = c :: rest)
    (bracket : c ∈ openingBrackets) (other : IsTree IsBare expected) (isPlain : IsPlain expected) :
    scalarForm false actual ≠ scalarForm true expected := by
  rcases other.exists_measured with ⟨right, measured⟩
  rw [scalarForm, asNumber, measured.scalarForm_eq]
  cases right with
  | some y => simp
  | none =>
      intro same
      injection same with same
      have written : actual.plain.toList = (trimmed expected.plain).toList := congrArg String.toList same
      rw [front, trimmed, String.toList_ofList] at written
      have unbracketed := other.unbracketed isPlain
      rw [← written] at unbracketed
      exact unbracketed bracket

theorem exact_of_isPlain {actual expected : Value} (tree : IsTree (fun _ => True) actual)
    (other : IsTree IsBare expected) (isPlain : IsPlain expected) : Exact actual expected := by
  rcases tree.exists_measured with ⟨left, measured⟩
  rcases other.exists_measured with ⟨right, otherMeasured⟩
  rcases exists_isEqual measured otherMeasured tree.isWritable other.isWritable with
    ⟨equal, compared, same⟩
  have met : Meets actual expected ↔ scalarForm false actual = scalarForm true expected := by
    rw [meets_plain_iff isPlain, compared, Except.ok.injEq, same]
  constructor
  · rw [meets_eq_meetsPlainly isPlain]
    exact decided_meetsPlainly compared (areWritable_iff.mpr (by simp [tree.isWritable, other.isWritable]))
  · rw [met, form_scalar (isScalar_of_isPlain isPlain)]
    cases tree with
    | @collection shape items isRow trees =>
        rcases exists_bracketed isRow (Value.writtenItems items) with ⟨c, rest, front, bracket⟩
        have different : scalarForm false (.collection shape items) ≠ scalarForm true expected :=
          scalarForm_ne_of_bracket rfl front bracket other isPlain
        rw [form]
        exact ⟨fun same => absurd same different, fun same => absurd same.symm scalarForm_ne_elements⟩
    | @mapping entries distinct trees =>
        rcases exists_plain_of_mapping (keyed entries) with ⟨c, rest, front, bracket⟩
        have different : scalarForm false (.mapping (keyed entries)) ≠ scalarForm true expected :=
          scalarForm_ne_of_bracket rfl front bracket other isPlain
        rw [form]
        exact ⟨fun same => absurd same different, fun same => absurd same.symm scalarForm_ne_entries⟩
    | null | flag | integer | double | text => rw [form] <;> simp

theorem forall₂_meets_iff {paired expected : List Value}
    (exact : ∀ candidate ∈ paired, ∀ item ∈ expected, Exact candidate item) :
    List.Forall₂ Meets paired expected ↔ paired.map (form false) = expected.map (form true) := by
  induction paired generalizing expected with
  | nil => cases expected <;> simp
  | cons candidate rest induction =>
      cases expected with
      | nil => simp
      | cons item others =>
          have own := (exact candidate (by simp) item (by simp)).sameForm
          have later := induction fun found member other inside =>
            exact found (List.mem_cons_of_mem _ member) other (List.mem_cons_of_mem _ inside)
          simp [own, later]

/-- What can be reordered after an image is taken can be reordered before. -/
theorem exists_perm_map_eq {α β : Type} {image : α → β} {row : List α} {images : List β}
    (same : (row.map image).Perm images) :
    ∃ reordered, row.Perm reordered ∧ reordered.map image = images := by
  have own : List.Forall₂ (fun found item => found = image item) (row.map image) row := by
    rw [← List.forall₂_map_right_iff, List.forall₂_eq_eq_eq]
  rcases List.perm_comp_forall₂ same.symm own with ⟨reordered, located, moved⟩
  rw [← List.forall₂_map_right_iff, List.forall₂_eq_eq_eq] at located
  exact ⟨reordered, moved.symm, located.symm⟩

/-- Elements that are compared exactly can be paired when their forms are the same but for the order. -/
theorem pairs_iff_perm {actual expected : List Value}
    (exact : ∀ candidate ∈ actual, ∀ item ∈ expected, Exact candidate item) :
    Pairs actual expected ↔ (actual.map (form false)).Perm (expected.map (form true)) := by
  have reordered {paired : List Value} (same : actual.Perm paired) :
      ∀ candidate ∈ paired, ∀ item ∈ expected, Exact candidate item :=
    fun candidate member => exact candidate (same.mem_iff.mpr member)
  constructor
  · rintro ⟨paired, same, met⟩
    rw [← (forall₂_meets_iff (reordered same)).mp met]
    exact same.map _
  · intro forms
    rcases exists_perm_map_eq forms with ⟨paired, same, equal⟩
    exact ⟨paired, same, (forall₂_meets_iff (reordered same)).mpr equal⟩

theorem unambiguous_of_exact {actual expected : List Value}
    (exact : ∀ candidate ∈ actual, ∀ item ∈ expected, Exact candidate item) :
    Unambiguous actual expected := by
  refine ⟨fun candidate member item inside => (exact candidate member item inside).decided, ?_⟩
  intro first firstIn second secondIn item itemIn other otherIn firstItem secondItem firstOther
  -- The two candidates have the form of the element that both meet.
  have same : form false first = form false second :=
    ((exact first firstIn item itemIn).sameForm.mp firstItem).trans
      ((exact second secondIn item itemIn).sameForm.mp secondItem).symm
  rw [(exact second secondIn other otherIn).sameForm, ← same]
  exact (exact first firstIn other otherIn).sameForm.mp firstOther

theorem exact_collection {shape other : Shape} {actual expected : List Value}
    (exact : ∀ candidate ∈ actual, ∀ item ∈ expected, Exact candidate item)
    (writable : (Value.collection shape actual).isWritable = true)
    (otherWritable : (Value.collection other expected).isWritable = true) :
    Exact (.collection shape actual) (.collection other expected) := by
  constructor
  · exact decided_meets_collection
      (fun candidate member item inside => (exact candidate member item inside).decided) writable otherWritable
  · rw [meets_collection_iff, form_collection_eq_iff, ← pairs_iff_perm exact]
    constructor
    · rintro ⟨size, met⟩
      exact pairs_of_meetsItems size met
    · intro pairs
      refine ⟨?_, meetsItems_of_pairs (unambiguous_of_exact exact) pairs⟩
      simpa using ((pairs_iff_perm exact).mp pairs).length_eq

/-! ## Mappings -/

theorem meets_keyed_iff {entries others : List (String × Value)} :
    Meets (.mapping (keyed entries)) (.mapping (keyed others)) ↔
      (∀ entry ∈ entries, (others.lookup entry.1).isSome = true) ∧
        (∀ other ∈ others, (entries.lookup other.1).isSome = true) ∧
        ∀ other ∈ others, ∀ value, entries.lookup other.1 = some value → Meets value other.2 := by
  have located {first second : List (String × Value)} :
      (∀ entry ∈ keyed first, ∃ other, Value.entryAt? (keyed second) entry.1 = some other) ↔
        ∀ entry ∈ first, (second.lookup entry.1).isSome = true := by
    simp only [forall_mem_keyed, entryAt?_keyed, ← Option.isSome_iff_exists, Option.isSome_map]
  have same : SameKeys (keyed entries) (keyed others) ↔
      (∀ entry ∈ entries, (others.lookup entry.1).isSome = true) ∧
        ∀ other ∈ others, (entries.lookup other.1).isSome = true :=
    ⟨fun keys => ⟨located.mp keys.known, located.mp keys.present⟩,
      fun keys => ⟨located.mpr keys.1, located.mpr keys.2⟩⟩
  have values : meetsEntries (keyed entries) (keyed others) = .ok () ↔
      ∀ other ∈ others, ∀ value, entries.lookup other.1 = some value → Meets value other.2 := by
    rw [meetsEntries_eq_ok_iff, forall_mem_keyed]
    simp only [entryAt?_keyed, Option.map_eq_some_iff, forall_exists_index, and_imp,
      forall_apply_eq_imp_iff₂]
  rw [meets_mapping_iff]
  simp only [Value.mapping.injEq, exists_eq_left', same, values, and_assoc]

theorem exact_mapping {entries others : List (String × Value)} (distinct : (others.map (·.1)).Nodup)
    (exact : ∀ entry ∈ entries, ∀ other ∈ others, Exact entry.2 other.2) :
    Exact (.mapping (keyed entries)) (.mapping (keyed others)) := by
  have exactAt {name : String} {value other : Value} (found : entries.lookup name = some value)
      (wanted : others.lookup name = some other) : Exact value other :=
    exact _ (mem_of_lookup found) _ (mem_of_lookup wanted)
  constructor
  · exact decided_meets_mapping fun entry member other inside => (exact entry member other inside).decided
  · rw [meets_keyed_iff, form_mapping_eq_iff]
    constructor
    · rintro ⟨known, present, met⟩ name
      cases wanted : others.lookup name with
      | none =>
          cases found : entries.lookup name with
          | none => rfl
          | some value =>
              have absent := known _ (mem_of_lookup found)
              rw [wanted] at absent
              cases absent
      | some other =>
          have inside := mem_of_lookup wanted
          rcases Option.isSome_iff_exists.mp (present _ inside) with ⟨value, found⟩
          rw [found, Option.map_some, Option.map_some, (exactAt found wanted).sameForm.mp (met _ inside _ found)]
    · intro forms
      have alike (name : String) : (entries.lookup name).isSome = (others.lookup name).isSome := by
        simpa using congrArg Option.isSome (forms name)
      have present {row : List (String × Value)} {entry : String × Value} (member : entry ∈ row) :
          (row.lookup entry.1).isSome = true :=
        List.lookup_isSome_iff.mpr ⟨entry, member, by simp⟩
      refine ⟨fun entry member => alike _ ▸ present member, fun other inside => alike _ ▸ present inside,
        fun other inside value found => ?_⟩
      have wanted := lookup_of_mem distinct inside
      have same := forms other.1
      rw [found, wanted, Option.map_some, Option.map_some, Option.some.injEq] at same
      exact (exactAt found wanted).sameForm.mpr same

/-! ## Trees are compared by their forms -/

theorem exact_of_refused {actual expected : Value} {mismatch : Mismatch}
    (refused : meets actual expected = fail mismatch) (decided : Decided (meets actual expected))
    (different : form false actual ≠ form true expected) : Exact actual expected :=
  ⟨decided, fun met => absurd (refused.symm.trans met) ok_of_fail, fun same => absurd same different⟩

theorem exact_of_no_items {actual : Value} (noItems : actual.items? = none)
    (writable : actual.isWritable = true) {shape : Shape} {expected : List Value}
    (otherWritable : (Value.collection shape expected).isWritable = true) :
    Exact actual (.collection shape expected) := by
  refine exact_of_refused (by rw [meets, noItems])
    (decided_of_no_items noItems writable otherWritable) ?_
  rw [form.eq_def true]
  cases actual with
  | collection => cases noItems
  | mapping =>
      rw [form]
      simp
  | _ =>
      rw [form_scalar]
      · exact scalarForm_ne_elements
      · trivial

theorem exact_of_no_entries {actual : Value} (noEntries : actual.entries? = none)
    (writable : actual.isWritable = true) (expected : List (Value × Value)) :
    Exact actual (.mapping expected) := by
  refine exact_of_refused (by rw [meets, noEntries])
    (decided_of_no_entries noEntries writable expected) ?_
  rw [form.eq_def true]
  cases actual with
  | mapping => cases noEntries
  | collection =>
      rw [form]
      simp
  | _ =>
      rw [form_scalar]
      · exact scalarForm_ne_entries
      · trivial

theorem exact_of_isTree {actual expected : Value} (tree : IsTree (fun _ => True) actual)
    (other : IsTree IsBare expected) : Exact actual expected := by
  induction other generalizing actual with
  | null => exact exact_of_isPlain tree .null trivial
  | flag value => exact exact_of_isPlain tree (.flag value) trivial
  | integer convertible => exact exact_of_isPlain tree (.integer convertible) trivial
  | double number => exact exact_of_isPlain tree (.double number) trivial
  | text number isBare => exact exact_of_isPlain tree (.text number isBare) isBare.noFlag
  | collection isRow trees induction =>
      have otherWritable := (IsTree.collection isRow trees).isWritable
      have writable := tree.isWritable
      cases tree with
      | collection isRow items =>
          exact exact_collection (fun candidate member item inside =>
            induction item inside (items candidate member)) writable otherWritable
      | null | flag | integer | double | text | mapping => exact exact_of_no_items rfl writable otherWritable
  | mapping distinct trees induction =>
      have writable := tree.isWritable
      cases tree with
      | mapping others values =>
          exact exact_mapping distinct fun entry member other inside =>
            induction other inside (values entry member)
      | null | flag | integer | double | text | collection => exact exact_of_no_entries rfl writable _

/-- A tree meets an expected one without flags just when both have the same normal form, and is refused
with an assertion otherwise. -/
theorem compared_by_form {actual expected : Value} (tree : IsTree (fun _ => True) actual)
    (other : IsTree IsBare expected) :
    (Meets actual expected ↔ form false actual = form true expected) ∧
      (form false actual ≠ form true expected → ∃ fault, meets actual expected = .error fault ∧
        (Failure.comparison fault).type = .guardAssertionError) := by
  have exact := exact_of_isTree tree other
  refine ⟨exact.sameForm, fun different => ?_⟩
  have decided := exact.decided
  cases compared : meets actual expected with
  | ok => exact absurd (exact.sameForm.mp compared) different
  | error fault =>
      rw [compared] at decided
      cases fault with
      | mismatch mismatch => exact ⟨_, rfl, rfl⟩
      | value => exact decided.elim
      | pattern => exact decided.elim

theorem compared_by_form_nested :
    let actual : Value := .collection .list [.text "1.0",
      .mapping (keyed [("k", .null), ("l", .text "b")]), .double (-0.0)]
    let expected : Value := .collection .tuple [.integer 0,
      .mapping (keyed [("l", .text " b "), ("k", .text "null")]), .integer 1]
    IsTree (fun _ => True) actual ∧ IsTree IsBare expected ∧ form false actual = form true expected ∧
      ∃ fault, meets actual .null = .error fault ∧
        (Failure.comparison fault).type = .guardAssertionError := by
  intro actual expected
  have entries : IsTree (fun _ => True) (.mapping (keyed [("k", .null), ("l", .text "b")])) := by
    refine .mapping (by decide) (List.forall_mem_cons.mpr ⟨.null, List.forall_mem_singleton.mpr ?_⟩)
    exact .text (by decide +kernel) trivial
  have tree : IsTree (fun _ => True) actual := by
    exact .collection (.inl rfl) (List.forall_mem_cons.mpr ⟨.text (by decide +kernel) trivial,
      List.forall_mem_cons.mpr ⟨entries, List.forall_mem_singleton.mpr (.double (by decide +kernel))⟩⟩)
  have bare (text : String) (noFlag : flag? text = none) (unbracketed : Unbracketed (trim text.toList))
      (number : ∀ x ∈ readFloat text.toList, x.isNaN = false) : IsTree IsBare (.text text) :=
    .text number ⟨noFlag, unbracketed⟩
  have others : IsTree IsBare (.mapping (keyed [("l", .text " b "), ("k", .text "null")])) := by
    refine .mapping (by decide) (List.forall_mem_cons.mpr ⟨?_, List.forall_mem_singleton.mpr ?_⟩)
    · exact bare " b " (by decide +kernel) (by decide +kernel) (by decide +kernel)
    · exact bare "null" (by decide +kernel) (by decide +kernel) (by decide +kernel)
  have other : IsTree IsBare expected := by
    exact .collection (.inr rfl) (List.forall_mem_cons.mpr ⟨.integer (by decide +kernel),
      List.forall_mem_cons.mpr ⟨others, List.forall_mem_singleton.mpr (.integer (by decide +kernel))⟩⟩)
  have met : Meets actual expected := by decide +kernel
  have different : form false actual ≠ form true .null := by
    have isScalar : IsScalar .null := trivial
    rw [form, form_scalar isScalar]
    exact scalarForm_ne_elements.symm
  exact ⟨tree, other, (compared_by_form tree other).1.mp met, (compared_by_form tree .null).2 different⟩

end Comparison

end GuardedSteps
