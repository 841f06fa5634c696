import GuardedSteps.Proofs.Comparison.Datum

/-!
Values that are compared with themselves. Each element takes itself, so a datum meets itself if its single
values do, which fails for texts only: blanks around a text are trimmed away where it is expected, and a
text may write the value that is not a number. Such a text is not met as it stands by anything, and a datum
that contains one does not meet itself either, in whatever order its elements are taken.
-/

namespace GuardedSteps

namespace Comparison

open Number Text

/-- A text that writes a number, or has no blanks around it. -/
structure Settled (text : String) : Prop where
  number : ∀ x ∈ readFloat text.toList, x.isNaN = false
  bare : readFloat text.toList = none → trimmed text = text

instance (text : String) : Decidable (Settled text) :=
  decidable_of_iff ((∀ x ∈ readFloat text.toList, x.isNaN = false) ∧
      (readFloat text.toList = none → trimmed text = text))
    ⟨fun both => ⟨both.1, both.2⟩, fun settled => ⟨settled.number, settled.bare⟩⟩

/-! ## Data that meet themselves -/

theorem meetsItems_self {whole : Value} {items : List Value} (own : ∀ item ∈ items, Meets item item) :
    meetsItems whole items items = .ok () := by
  induction items with
  | nil => rw [meetsItems]
  | cons item rest induction =>
      rcases List.forall_mem_cons.mp own with ⟨first, others⟩
      have taken : takeMatch (meets · item) (item :: rest) = .ok (some rest) := by rw [takeMatch, first]
      rw [meetsItems_cons_of_taken taken]
      exact induction others

theorem meets_keyed_self {entries : List (String × Value)} (distinct : (entries.map (·.1)).Nodup)
    (own : ∀ entry ∈ entries, Meets entry.2 entry.2) :
    Meets (.mapping (keyed entries)) (.mapping (keyed entries)) := by
  have located {entry : String × Value} (member : entry ∈ entries) :
      (entries.lookup entry.1).isSome = true := by
    rw [lookup_of_mem distinct member, Option.isSome_some]
  refine meets_keyed_iff.mpr ⟨fun _ => located, fun _ => located, fun entry member value found => ?_⟩
  cases (lookup_of_mem distinct member).symm.trans found
  exact own entry member

/-- A tree meets itself if its texts are not changed by trimming, numbers apart. -/
theorem IsTree.meets_self {admitted : String → Prop} {value : Value} (tree : IsTree admitted value)
    (texts : ∀ text, admitted text → Flagless text ∧ (readFloat text.toList = none → trimmed text = text)) :
    Meets value value := by
  have single {value : Value} (tree : IsTree admitted value) (isPlain : IsPlain value)
      (same : value.asNumber = .ok none → trimmed value.plain = value.plain) : Meets value value := by
    rcases tree.exists_measured with ⟨number?, measured⟩
    rcases exists_isEqual measured measured tree.isWritable tree.isWritable with ⟨equal, compared, forms⟩
    rw [meets_plain_iff isPlain, compared, Except.ok.injEq, forms, measured.scalarForm_eq,
      measured.scalarForm_eq]
    cases number? with
    | none => simp [same measured.asNumber]
    | some x => rfl
  induction tree with
  | null => exact single .null trivial fun _ => by decide +kernel
  | flag value =>
      refine single (.flag value) trivial fun _ => ?_
      cases value <;> decide +kernel
  | integer convertible =>
      rcases Option.isSome_iff_exists.mp convertible with ⟨x, found⟩
      refine single (.integer convertible) trivial fun unread => ?_
      rw [Value.asNumber, found] at unread
      cases unread
  | double number =>
      refine single (.double number) trivial fun unread => ?_
      cases unread
  | @text text number isAdmitted =>
      refine single (.text number isAdmitted) (texts text isAdmitted).1 fun unread => ?_
      exact (texts text isAdmitted).2 (Except.ok.inj unread)
  | collection isRow trees induction =>
      exact meets_collection_iff.mpr ⟨rfl, meetsItems_self induction⟩
  | mapping distinct trees induction => exact meets_keyed_self distinct induction

/-! ## Texts that nothing expected is met by -/

section

variable {real : Float → Prop} {admitted : String → Prop}

theorem IsDatum.exists_asNumber {value : Value} (datum : IsDatum Convertible real admitted value)
    (isScalar : IsScalar value) : ∃ number?, value.asNumber = .ok number? ∧
      (readFloat value.plain.toList).isSome = number?.isSome := by
  have measured {value : Value} (tree : IsTree admitted value) : ∃ number?, value.asNumber = .ok number? ∧
      (readFloat value.plain.toList).isSome = number?.isSome := by
    rcases tree.exists_measured with ⟨number?, measured⟩
    exact ⟨number?, measured.asNumber, measured.read⟩
  cases datum with
  | null => exact measured .null
  | flag value => exact measured (.flag value)
  | integer convertible => exact measured (.integer convertible)
  | double isReal => exact ⟨_, rfl, isSome_readFloat_floatText _⟩
  | text isAdmitted => exact ⟨_, rfl, rfl⟩
  | collection => exact isScalar.elim
  | mapping => exact isScalar.elim

theorem settled_of_isEqual {text : String} {expected : Value}
    (expectation : IsDatum Convertible real admitted expected) (isScalar : IsScalar expected)
    (equal : isEqual (.text text) expected = .ok true) : Settled text := by
  rcases expectation.exists_asNumber isScalar with ⟨right, measured, read⟩
  have asText : expected.asText = .ok expected.plain := if_pos expectation.isWritable
  unfold isEqual numbers? at equal
  rw [Value.asNumber, measured, asText] at equal
  -- Texts that are compared as such are the same but for blanks around the expected one.
  have byText (same : text = trimmed expected.plain) : trimmed text = text ∧
      (readFloat text.toList).isSome = right.isSome := by
    rw [same, trimmed_trimmed, readFloat_trimmed]
    exact ⟨rfl, read⟩
  cases left : readFloat text.toList with
  | none =>
      rw [left] at equal
      have same : text = trimmed expected.plain := beq_iff_eq.mp (Except.ok.inj equal)
      exact ⟨by simp [left], fun _ => (byText same).1⟩
  | some x =>
      rw [left] at equal
      cases right with
      | none =>
          have same : text = trimmed expected.plain := beq_iff_eq.mp (Except.ok.inj equal)
          have unread := (byText same).2
          rw [left] at unread
          cases unread
      | some y =>
          have same : (x == y) = true := Except.ok.inj equal
          refine ⟨fun z member => ?_, fun unread => by cases left.symm.trans unread⟩
          cases left.symm.trans member
          exact isNaN_of_beq same

theorem settled_of_meets {text : String} {expected : Value}
    (expectation : IsDatum Convertible real Flagless expected) (met : Meets (.text text) expected) :
    Settled text := by
  have plainly (isPlain : IsPlain expected) (isScalar : IsScalar expected) : Settled text :=
    settled_of_isEqual expectation isScalar ((meets_plain_iff isPlain).mp met)
  cases expectation with
  | collection =>
      rcases exists_items_of_meets met with ⟨shape, items, same⟩
      cases same
  | mapping =>
      rcases meets_mapping_iff.mp met with ⟨entries, same, -⟩
      cases same
  | text isAdmitted => exact plainly isAdmitted trivial
  | _ => exact plainly trivial trivial

end

/-! ## Counting collections and mappings -/

mutual
def containers : Value → Nat
  | .collection _ items => containersOf items + 1
  | .mapping entries => containersAt entries + 1
  | _ => 0

def containersOf : List Value → Nat
  | [] => 0
  | item :: rest => containers item + containersOf rest

def containersAt : List (Value × Value) → Nat
  | [] => 0
  | (_, value) :: rest => containers value + containersAt rest
end

theorem containersOf_eq_sum (items : List Value) : containersOf items = (items.map containers).sum := by
  induction items with
  | nil => rfl
  | cons item rest induction => rw [containersOf, induction, List.map_cons, List.sum_cons]

theorem containersAt_keyed (entries : List (String × Value)) :
    containersAt (keyed entries) = ((entries.map (·.2)).map containers).sum := by
  induction entries with
  | nil => rfl
  | cons entry rest induction =>
      change containers entry.2 + containersAt (keyed rest) = _
      rw [induction, List.map_cons, List.map_cons, List.sum_cons]

/-- A value has as many containers as an expected one that it meets, or more, and it is without flaws if
it has as many. -/
structure Outweighs (flawless : Value → Prop) (actual expected : Value) : Prop where
  more : containers expected ≤ containers actual
  flawless : containers expected = containers actual → flawless actual

/-- If no expected element has more containers than the one it is paired with, and all together have as
many, each has as many. -/
theorem outweighs_of_forall₂ {flawless : Value → Prop} {paired expected : List Value}
    (met : List.Forall₂ Meets paired expected)
    (each : ∀ candidate ∈ paired, ∀ item ∈ expected, Meets candidate item → Outweighs flawless candidate item) :
    (expected.map containers).sum ≤ (paired.map containers).sum ∧
      ((expected.map containers).sum = (paired.map containers).sum → ∀ item ∈ paired, flawless item) := by
  induction met with
  | nil => simp
  | @cons candidate item candidates items own others induction =>
      rcases each candidate (by simp) item (by simp) own with ⟨first, flawless⟩
      rcases induction fun candidate member item inside =>
        each candidate (List.mem_cons_of_mem _ member) item (List.mem_cons_of_mem _ inside) with ⟨more, all⟩
      simp only [List.map_cons, List.sum_cons]
      exact ⟨by omega, fun same => List.forall_mem_cons.mpr ⟨flawless (by omega), all (by omega)⟩⟩

theorem outweighs_of_pairs {flawless : Value → Prop} {actual expected : List Value}
    (pairs : Pairs actual expected)
    (each : ∀ candidate ∈ actual, ∀ item ∈ expected, Meets candidate item → Outweighs flawless candidate item) :
    (expected.map containers).sum ≤ (actual.map containers).sum ∧
      ((expected.map containers).sum = (actual.map containers).sum → ∀ item ∈ actual, flawless item) := by
  rcases pairs with ⟨paired, same, met⟩
  rcases outweighs_of_forall₂ met (fun candidate member => each candidate (same.mem_iff.mpr member))
    with ⟨more, all⟩
  rw [(same.map containers).sum_eq]
  exact ⟨more, fun equal item member => all equal item (same.mem_iff.mp member)⟩

theorem pairs_of_meets_keyed {entries others : List (String × Value)}
    (distinct : (entries.map (·.1)).Nodup) (otherDistinct : (others.map (·.1)).Nodup)
    (met : Meets (.mapping (keyed entries)) (.mapping (keyed others))) :
    Pairs (entries.map (·.2)) (others.map (·.2)) := by
  rcases meets_keyed_iff.mp met with ⟨known, present, values⟩
  let valueAt (name : String) : Value := (entries.lookup name).getD .null
  have own : entries.map (·.2) = (entries.map (·.1)).map valueAt := by
    rw [List.map_map]
    refine List.map_congr_left fun entry member => ?_
    simp [valueAt, lookup_of_mem distinct member]
  have names : (entries.map (·.1)).Perm (others.map (·.1)) := by
    have listed (row : List (String × Value)) (name : String) :
        name ∈ row.map (·.1) ↔ (row.lookup name).isSome = true := by
      simp only [List.lookup_isSome_iff, List.mem_map, beq_iff_eq]
      exact exists_congr fun entry => and_congr_right fun _ => eq_comm
    refine (List.perm_ext_iff_of_nodup distinct otherDistinct).mpr fun name => ⟨fun member => ?_, fun member => ?_⟩
    · rcases List.mem_map.mp member with ⟨entry, inside, rfl⟩
      exact (listed others _).mpr (known entry inside)
    · rcases List.mem_map.mp member with ⟨other, inside, rfl⟩
      exact (listed entries _).mpr (present other inside)
  refine ⟨(others.map (·.1)).map valueAt, own ▸ names.map valueAt, ?_⟩
  rw [List.forall₂_map_left_iff, List.forall₂_map_left_iff, List.forall₂_map_right_iff, List.forall₂_same]
  intro other inside
  rcases Option.isSome_iff_exists.mp (present other inside) with ⟨value, found⟩
  simpa [valueAt, found] using values other inside value found

/-! ## Data that meet each other -/

/-- A datum whose texts are settled. -/
abbrev IsSettled (whole : Int → Prop) (real : Float → Prop) : Value → Prop :=
  IsDatum whole real fun text => Flagless text ∧ Settled text

section

variable {whole : Int → Prop} {real : Float → Prop}

theorem IsDatum.isSettled_of_single {actual : Value} (datum : IsDatum whole real Flagless actual)
    (single : containers actual = 0) (settled : ∀ text, actual = .text text → Settled text) :
    IsSettled whole real actual := by
  cases datum with
  | null => exact .null
  | flag value => exact .flag value
  | integer isWhole => exact .integer isWhole
  | double isReal => exact .double isReal
  | text isAdmitted => exact .text ⟨isAdmitted, settled _ rfl⟩
  | collection => simp [containers] at single
  | mapping => simp [containers] at single

/-- A datum that meets an expected one has at least as many containers, and settled texts if it has as many:
a collection or a mapping then meets nothing but a collection or a mapping, so that no text is taken for
the written form of one, and each text has met a single value. -/
theorem IsDatum.outweighs (convertible : ∀ value, whole value → Convertible value) {actual expected : Value}
    (datum : IsDatum whole real Flagless actual) (expectation : IsDatum whole real Flagless expected)
    (met : Meets actual expected) : Outweighs (IsSettled whole real) actual expected := by
  have single {actual expected : Value} (datum : IsDatum whole real Flagless actual)
      (expectation : IsDatum whole real Flagless expected) (met : Meets actual expected)
      (single : containers expected = 0) : Outweighs (IsSettled whole real) actual expected := by
    refine ⟨by omega, fun same => datum.isSettled_of_single (by omega) fun text isText => ?_⟩
    subst isText
    exact settled_of_meets (expectation.mono convertible (fun _ isReal => isReal) fun _ flagless => flagless) met
  induction expectation generalizing actual with
  | null => exact single datum .null met rfl
  | flag value => exact single datum (.flag value) met rfl
  | integer isWhole => exact single datum (.integer isWhole) met rfl
  | double isReal => exact single datum (.double isReal) met rfl
  | text isAdmitted => exact single datum (.text isAdmitted) met rfl
  | @collection shape expected isRow data induction =>
      rcases exists_items_of_meets met with ⟨other, items, rfl⟩
      rcases meets_collection_iff.mp met with ⟨size, met⟩
      cases datum with
      | collection isRow own =>
          rcases outweighs_of_pairs (pairs_of_meetsItems size met) (fun candidate member item inside =>
            induction item inside (own candidate member)) with ⟨more, all⟩
          simp only [← containersOf_eq_sum] at more all
          exact ⟨by simpa [containers] using more,
            fun same => .collection isRow (all (by simpa [containers] using same))⟩
  | @mapping others otherDistinct data induction =>
      rcases meets_mapping_iff.mp met with ⟨entries, rfl, -⟩
      cases datum with
      | @mapping entries distinct own =>
          have each : ∀ candidate ∈ entries.map (·.2), ∀ item ∈ others.map (·.2),
              Meets candidate item → Outweighs (IsSettled whole real) candidate item := by
            simp only [List.forall_mem_map]
            exact fun entry member other inside => induction other inside (own entry member)
          rcases outweighs_of_pairs (pairs_of_meets_keyed distinct otherDistinct met) each with ⟨more, all⟩
          simp only [← containersAt_keyed] at more all
          refine ⟨by simpa [containers] using more, fun same => .mapping distinct ?_⟩
          exact List.forall_mem_map.mp (all (by simpa [containers] using same))

end

/-! ## Comparison is reflexive where all texts are settled -/

def Small (value : Int) : Prop := value.natAbs < 2 ^ 53

instance : DecidablePred Small := fun value => inferInstanceAs (Decidable (value.natAbs < 2 ^ 53))

theorem Small.convertible {value : Int} (small : Small value) : Convertible value := by
  have finite : (nearest value.natAbs 0).isInf = false := (moderate_nearest small).isInf
  simp [Convertible, ofInteger, finite]

def Finite (x : Float) : Prop := x.isFinite = true

instance : DecidablePred Finite := fun _ => inferInstanceAs (Decidable (_ = true))

theorem Finite.isNaN {x : Float} (finite : Finite x) : x.isNaN = false := by
  change x.toModel.unpack.isFinite = true at finite
  change x.toModel.unpack.isNaN = false
  cases unpacked : x.toModel.unpack with
  | notANumber =>
      rw [unpacked] at finite
      cases finite
  | _ => rfl

/-- A datum meets itself just when its texts are settled: each of them writes a number, or has no blanks
around it. -/
theorem meets_self_iff {value : Value} (datum : IsDatum Small Finite Flagless value) :
    Meets value value ↔ IsSettled Small Finite value := by
  constructor
  · intro met
    exact (datum.outweighs (fun _ => Small.convertible) datum met).flawless rfl
  · intro settled
    have tree : IsTree (fun text => Flagless text ∧ Settled text) value :=
      settled.isTree (fun _ => Small.convertible) (fun _ => Finite.isNaN)
        fun text plain => ⟨plain.2.number, plain⟩
    exact tree.meets_self fun text plain => ⟨plain.1, plain.2.bare⟩

theorem meets_self_nested :
    let value : Value := .collection .list [.text " 1_0 ", .text "['a b']",
      .collection .list [.text "a b"], .mapping (keyed [("k", .integer (-5)), (" ", .double 0.1)])]
    let words : Value := .collection .tuple [.text " a", .text "a"]
    IsDatum Small Finite Flagless value ∧ Meets value value ∧
      IsDatum Small Finite Flagless words ∧ ¬ Meets words words := by
  intro value words
  have datum {admitted : String → Prop} (texts : ∀ text ∈ [" 1_0 ", "['a b']", "a b"], admitted text) :
      IsDatum Small Finite admitted value := by
    have letters : IsDatum Small Finite admitted (.collection .list [.text "a b"]) :=
      .collection (.inl rfl) (List.forall_mem_singleton.mpr (.text (texts _ (by simp))))
    have numbers : IsDatum Small Finite admitted
        (.mapping (keyed [("k", .integer (-5)), (" ", .double 0.1)])) :=
      .mapping (by simp) (List.forall_mem_cons.mpr ⟨.integer (by decide),
        List.forall_mem_singleton.mpr (.double (by decide +kernel))⟩)
    exact .collection (.inl rfl) (List.forall_mem_cons.mpr ⟨.text (texts _ (by simp)),
      List.forall_mem_cons.mpr ⟨.text (texts _ (by simp)), List.forall_mem_cons.mpr ⟨letters,
        List.forall_mem_singleton.mpr numbers⟩⟩⟩)
  have own : IsDatum Small Finite Flagless value := datum (by decide +kernel)
  have others : IsDatum Small Finite Flagless words :=
    .collection (.inr rfl) (List.forall_mem_cons.mpr ⟨.text (by decide +kernel),
      List.forall_mem_singleton.mpr (.text (by decide +kernel))⟩)
  refine ⟨own, (meets_self_iff own).mpr (datum (by decide +kernel)), others, fun met => ?_⟩
  have unsettled : ¬ Settled " a" := by decide +kernel
  have settled : IsSettled Small Finite (.collection .tuple [.text " a", .text "a"]) :=
    (meets_self_iff others).mp met
  cases settled with
  | collection isRow items =>
      cases items (.text " a") (by simp) with
      | text plain => exact unsettled plain.2

/-- Texts that do not meet themselves: one with a blank in front, and one that writes the value that is not
a number. -/
theorem not_meets_self :
    IsDatum Small Finite Flagless (.text " a") ∧ ¬ Meets (.text " a") (.text " a") ∧
      IsDatum Small Finite Flagless (.text "nan") ∧ ¬ Meets (.text "nan") (.text "nan") := by
  have flagless : ∀ text ∈ [" a", "nan"], Flagless text := by decide +kernel
  exact ⟨.text (flagless _ (by simp)), by decide +kernel, .text (flagless _ (by simp)), by decide +kernel⟩

end Comparison

end GuardedSteps
