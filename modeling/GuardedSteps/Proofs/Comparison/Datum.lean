import GuardedSteps.Proofs.Comparison.Containment

/-!
Data. A datum is built from single values by lists, tuples and mappings with texts as keys. Two data whose
whole numbers are doubles are compared with an answer, whatever their shapes are, as long as no text of
the expected one is a flag: a mismatch is reported as such, and does not stop the search for another
candidate.
-/

namespace GuardedSteps

namespace Comparison

open Number Text

/-! ## Data -/

/-- A value built from the null value, flags, and whole numbers, doubles and texts of some kind. -/
inductive IsDatum (whole : Int → Prop) (real : Float → Prop) (admitted : String → Prop) : Value → Prop
  | null : IsDatum whole real admitted .null
  | flag (value : Bool) : IsDatum whole real admitted (.flag value)
  | integer {value : Int} (isWhole : whole value) : IsDatum whole real admitted (.integer value)
  | double {x : Float} (isReal : real x) : IsDatum whole real admitted (.double x)
  | text {text : String} (isAdmitted : admitted text) : IsDatum whole real admitted (.text text)
  | collection {shape : Shape} {items : List Value} (isRow : shape = .list ∨ shape = .tuple)
      (data : ∀ item ∈ items, IsDatum whole real admitted item) :
      IsDatum whole real admitted (.collection shape items)
  | mapping {entries : List (String × Value)} (distinct : (entries.map (·.1)).Nodup)
      (data : ∀ entry ∈ entries, IsDatum whole real admitted entry.2) :
      IsDatum whole real admitted (.mapping (keyed entries))

/-- A whole number that does not lie beyond all doubles. -/
def Convertible (value : Int) : Prop := (ofInteger value).isSome = true

instance : DecidablePred Convertible := fun _ => inferInstanceAs (Decidable (_ = true))

/-- A text that is no flag where it is expected. -/
def Flagless (text : String) : Prop := flag? text = none

instance : DecidablePred Flagless := fun _ => inferInstanceAs (Decidable (_ = none))

section

variable {whole : Int → Prop} {real : Float → Prop} {admitted : String → Prop}

theorem IsDatum.mono {whole' : Int → Prop} {real' : Float → Prop} {admitted' : String → Prop}
    (wholes : ∀ value, whole value → whole' value) (reals : ∀ x, real x → real' x)
    (texts : ∀ text, admitted text → admitted' text) {value : Value}
    (datum : IsDatum whole real admitted value) : IsDatum whole' real' admitted' value := by
  induction datum with
  | null => exact .null
  | flag value => exact .flag value
  | integer isWhole => exact .integer (wholes _ isWhole)
  | double isReal => exact .double (reals _ isReal)
  | text isAdmitted => exact .text (texts _ isAdmitted)
  | collection isRow data induction => exact .collection isRow induction
  | mapping distinct data induction => exact .mapping distinct induction

theorem IsDatum.isTree {plain : String → Prop} (wholes : ∀ value, whole value → Convertible value)
    (reals : ∀ x, real x → x.isNaN = false)
    (texts : ∀ text, admitted text → (∀ x ∈ readFloat text.toList, x.isNaN = false) ∧ plain text)
    {value : Value} (datum : IsDatum whole real admitted value) : IsTree plain value := by
  induction datum with
  | null => exact .null
  | flag value => exact .flag value
  | integer isWhole => exact .integer (wholes _ isWhole)
  | double isReal => exact .double (reals _ isReal)
  | text isAdmitted => exact .text (texts _ isAdmitted).1 (texts _ isAdmitted).2
  | collection isRow data induction => exact .collection isRow induction
  | mapping distinct data induction => exact .mapping distinct induction

end

/-! ## Data can be written and measured -/

section

variable {real : Float → Prop} {admitted : String → Prop} {value : Value}
  (datum : IsDatum Convertible real admitted value)

include datum

theorem IsDatum.isWritable : value.isWritable = true := by
  induction datum with
  | null | flag | double | text => rfl
  | integer convertible =>
      rcases Option.isSome_iff_exists.mp convertible with ⟨x, found⟩
      exact isWritable_of_ofInteger found
  | collection isRow data induction => exact areWritable_iff.mpr induction
  | mapping distinct data induction =>
      exact entriesAreWritable_iff.mpr (forall_mem_keyed.mpr fun entry member => ⟨rfl, induction entry member⟩)

theorem IsDatum.faultless : Faultless value := by
  refine ⟨?_, isWritable_iff.mp datum.isWritable⟩
  cases datum with
  | integer convertible =>
      rcases Option.isSome_iff_exists.mp convertible with ⟨x, found⟩
      exact ⟨some x, by rw [Value.asNumber, found]⟩
  | _ => exact ⟨_, rfl⟩

theorem IsDatum.of_items {row : List Value} (items : value.items? = some row) :
    ∀ item ∈ row, IsDatum Convertible real admitted item := by
  cases datum with
  | collection isRow data =>
      cases items
      exact data
  | _ => cases items

end

/-! ## Data are compared with an answer -/

/-- Data are compared with an answer. -/
theorem IsDatum.decided {real other : Float → Prop} {admitted : String → Prop} {actual expected : Value}
    (datum : IsDatum Convertible real admitted actual)
    (expectation : IsDatum Convertible other Flagless expected) : Decided (meets actual expected) := by
  have plainly {actual expected : Value} (datum : IsDatum Convertible real admitted actual)
      (expectation : IsDatum Convertible other Flagless expected) (isPlain : IsPlain expected) :
      Decided (meets actual expected) := by
    rcases exists_isEqual_of_faultless datum.faultless expectation.faultless with ⟨equal, compared⟩
    rw [meets_eq_meetsPlainly isPlain]
    exact decided_meetsPlainly compared
      (areWritable_iff.mpr (by simp [datum.isWritable, expectation.isWritable]))
  induction expectation generalizing actual with
  | null => exact plainly datum .null trivial
  | flag value => exact plainly datum (.flag value) trivial
  | integer isWhole => exact plainly datum (.integer isWhole) trivial
  | double isReal => exact plainly datum (.double isReal) trivial
  | text isAdmitted => exact plainly datum (.text isAdmitted) isAdmitted
  | collection isRow data induction =>
      have writable := datum.isWritable
      have otherWritable := (IsDatum.collection isRow data).isWritable
      cases datum with
      | collection isRow items =>
          exact decided_meets_collection (fun candidate member item inside =>
            induction item inside (items candidate member)) writable otherWritable
      | null | flag | integer | double | text | mapping => exact decided_of_no_items rfl writable otherWritable
  | mapping distinct data induction =>
      have writable := datum.isWritable
      cases datum with
      | mapping others values =>
          exact decided_meets_mapping fun entry member other inside =>
            induction other inside (values entry member)
      | null | flag | integer | double | text | collection => exact decided_of_no_entries rfl writable _

theorem IsDatum.decided_flag {real : Float → Prop} {admitted : String → Prop} {value : Value}
    (datum : IsDatum Convertible real admitted value) {text flag : String} (isFlag : flag? text = some flag)
    (noPattern : ∀ operand, operation? flag ≠ some (.pattern, operand)) :
    Decided (meets value (.text text)) := by
  have faultless := datum.faultless
  refine decided_of_reported isFlag datum.isWritable ?_
  unfold satisfies
  split
  · next operator operand read =>
    by_cases part : operator = .contains
    · subst part
      exact reported_hasPart faultless (fun row items item member =>
        (datum.of_items items item member).faultless) operand
    · exact reported_holds faultless (fun pattern => noPattern operand (pattern ▸ read)) part operand
  · exact reported_isEqual faultless flag

/-! ## The search for a candidate -/

/-- A search whose tests come to answers leaves all candidates only if none of them passes. -/
theorem exists_takeMatch_iff {test : Value → Except Fault Unit} {candidates : List Value}
    (decided : ∀ candidate ∈ candidates, Decided (test candidate)) :
    ∃ found, takeMatch test candidates = .ok found ∧
      (found = none ↔ ∀ candidate ∈ candidates, test candidate ≠ .ok ()) := by
  rcases exists_takeMatch_of_decided decided with ⟨found, taken⟩
  refine ⟨found, taken, ?_⟩
  cases found with
  | none =>
      refine ⟨fun _ candidate member passed => ?_, fun _ => rfl⟩
      rcases exists_takeMatch decided ⟨candidate, member, passed⟩ with ⟨left, other⟩
      cases taken.symm.trans other
  | some left =>
      rcases exists_perm_of_takeMatch taken with ⟨candidate, passed, same⟩
      refine ⟨nofun, fun failed => ?_⟩
      exact absurd passed (failed candidate (same.mem_iff.mpr List.mem_cons_self))

/-! ## Whole numbers beyond all doubles -/

def oneWithZeros (zeros : Nat) : Int := (Nat.pow 10 zeros : Nat)

theorem not_convertible_oneWithZeros {zeros : Nat} (many : 310 ≤ zeros) :
    ¬ Convertible (oneWithZeros zeros) := by
  intro convertible
  rcases Option.isSome_iff_exists.mp convertible with ⟨x, found⟩
  have short := Nat.le_trans (length_digitChars_le_of_ofInteger found) many
  have small := lt_of_length_digitChars_le (Nat.lt_of_lt_of_le (by decide) many) short
  exact absurd small (Nat.lt_irrefl _)

section

variable {value : Int} (beyond : ¬ Convertible value)

include beyond

/-- Whether a whole number beyond all doubles is equal to another value cannot be told. -/
theorem isEqual_of_not_convertible (other : Value) :
    isEqual (.integer value) other = .error (.value .beyondDoubles) := by
  have measured : Value.asNumber (.integer value) = .error .beyondDoubles := by
    rw [Value.asNumber, Option.not_isSome_iff_eq_none.mp beyond]
  rw [isEqual, numbers?, measured]
  rfl

theorem meets_of_not_convertible {expected : Value} (isPlain : IsPlain expected) :
    meets (.integer value) expected = .error (.value .beyondDoubles) := by
  rw [meets_eq_meetsPlainly isPlain, meetsPlainly, isEqual_of_not_convertible beyond]
  rfl

end

end Comparison

end GuardedSteps
