import GuardedSteps.Proofs.Comparison.Fit
import GuardedSteps.Proofs.Comparison.NormalForm
import GuardedSteps.Proofs.Number.Form
import GuardedSteps.Proofs.Number.Integer

/-!
Trees. A tree is built from numbers, texts, flags and the null value by lists, tuples and mappings with
texts as keys. It can be written, and its plain text is read as a number only if it stands for one, so a
number and what is no number differ as texts.
-/

namespace GuardedSteps

namespace Comparison

open Number Text

/-! ## Trees -/

/-- A value built from single values and texts that are admitted, without the value that is not a
number. -/
inductive IsTree (admitted : String → Prop) : Value → Prop
  | null : IsTree admitted .null
  | flag (value : Bool) : IsTree admitted (.flag value)
  | integer {value : Int} (convertible : (ofInteger value).isSome = true) :
      IsTree admitted (.integer value)
  | double {x : Float} (number : x.isNaN = false) : IsTree admitted (.double x)
  | text {text : String} (number : ∀ x ∈ readFloat text.toList, x.isNaN = false)
      (isAdmitted : admitted text) : IsTree admitted (.text text)
  | collection {shape : Shape} {items : List Value} (isRow : shape = .list ∨ shape = .tuple)
      (trees : ∀ item ∈ items, IsTree admitted item) : IsTree admitted (.collection shape items)
  | mapping {entries : List (String × Value)} (distinct : (entries.map (·.1)).Nodup)
      (trees : ∀ entry ∈ entries, IsTree admitted entry.2) : IsTree admitted (.mapping (keyed entries))

def Unbracketed : List Char → Prop
  | [] => True
  | c :: _ => c ∉ openingBrackets

instance : DecidablePred Unbracketed
  | [] => isTrue trivial
  | c :: _ => inferInstanceAs (Decidable (c ∉ openingBrackets))

/-- An expected text that is not a flag and, blanks apart, not the written form of a collection. -/
structure IsBare (text : String) : Prop where
  noFlag : flag? text = none
  unbracketed : Unbracketed (trim text.toList)

/-! ## Trees can be written -/

theorem areWritable_iff {items : List Value} :
    Value.areWritable items = true ↔ ∀ item ∈ items, item.isWritable = true := by
  induction items with
  | nil => simp [Value.areWritable]
  | cons item rest induction => simp [Value.areWritable, induction]

theorem entriesAreWritable_iff {entries : List (Value × Value)} :
    Value.entriesAreWritable entries = true ↔
      ∀ entry ∈ entries, entry.1.isWritable = true ∧ entry.2.isWritable = true := by
  induction entries with
  | nil => simp [Value.entriesAreWritable]
  | cons entry rest induction => simp [Value.entriesAreWritable, induction]

theorem IsTree.isWritable {admitted : String → Prop} {value : Value} (tree : IsTree admitted value) :
    value.isWritable = true := by
  induction tree with
  | null | flag | double | text => rfl
  | integer convertible =>
      rcases Option.isSome_iff_exists.mp convertible with ⟨x, found⟩
      exact isWritable_of_ofInteger found
  | collection isRow trees induction => exact areWritable_iff.mpr induction
  | mapping distinct trees induction =>
      refine entriesAreWritable_iff.mpr fun entry member => ?_
      rcases List.mem_map.mp member with ⟨own, inside, rfl⟩
      exact ⟨rfl, induction own inside⟩

/-! ## Single values -/

/-- What a comparison of single values looks at. -/
structure Measured (value : Value) (number : Option Float) : Prop where
  asNumber : value.asNumber = .ok number
  proper : ∀ x ∈ number, x.isNaN = false
  read : (readFloat value.plain.toList).isSome = number.isSome

theorem Measured.scalarForm_eq {value : Value} {number : Option Float} (measured : Measured value number)
    (expected : Bool) :
    scalarForm expected value = match number with
      | some x => .number (unsignedZero x)
      | none => .text (if expected then trimmed value.plain else value.plain) := by
  rw [scalarForm, measured.asNumber]
  cases number with
  | none => rfl
  | some x => rfl

theorem readFloat_trimmed (text : String) : readFloat (trimmed text).toList = readFloat text.toList := by
  rw [trimmed, String.toList_ofList, readFloat_trim]

/-- A number and what is no number do not have the same text, blanks around the expected one apart. -/
theorem plain_ne_of_read {actual expected : Value} {left right : Option Float}
    (measured : Measured actual left) (other : Measured expected right)
    (different : left.isSome ≠ right.isSome) : actual.plain ≠ trimmed expected.plain := by
  intro same
  apply different
  rw [← measured.read, ← other.read, same, readFloat_trimmed]

theorem exists_isEqual {actual expected : Value} {left right : Option Float}
    (measured : Measured actual left) (other : Measured expected right)
    (writable : actual.isWritable = true) (otherWritable : expected.isWritable = true) :
    ∃ equal, isEqual actual expected = .ok equal ∧
      (equal = true ↔ scalarForm false actual = scalarForm true expected) := by
  have asText : actual.asText = .ok actual.plain := if_pos writable
  have otherText : expected.asText = .ok expected.plain := if_pos otherWritable
  rw [measured.scalarForm_eq, other.scalarForm_eq]
  unfold isEqual numbers?
  rw [measured.asNumber, other.asNumber, asText, otherText]
  cases left with
  | none =>
      refine ⟨_, rfl, ?_⟩
      cases right with
      | none => simp
      | some y => simpa using plain_ne_of_read measured other (by simp)
  | some x =>
      cases right with
      | none =>
          refine ⟨_, rfl, ?_⟩
          simpa using plain_ne_of_read measured other (by simp)
      | some y =>
          refine ⟨_, rfl, ?_⟩
          rw [beq_iff_unsignedZero_eq (measured.proper x rfl), Form.number.injEq]

/-! ## Single values in trees -/

theorem exists_bracketed {shape : Shape} (isRow : shape = .list ∨ shape = .tuple) (items : List String) :
    ∃ c rest, (Value.bracketed shape items).toList = c :: rest ∧ c ∈ openingBrackets := by
  rcases isRow with rfl | rfl
  · refine ⟨'[', ?_⟩
    simp [Value.bracketed, openingBrackets]
  · refine ⟨'(', ?_⟩
    match items with
    | [] | [_] | _ :: _ :: _ => simp [Value.bracketed, openingBrackets]

theorem exists_plain_of_mapping (entries : List (Value × Value)) :
    ∃ c rest, (Value.mapping entries).plain.toList = c :: rest ∧ c ∈ openingBrackets := by
  refine ⟨'\x7b', ?_⟩
  simp [Value.plain, Value.written, openingBrackets]

theorem measured_of_bracket {value : Value} (asNumber : value.asNumber = .ok none) {c : Char}
    {rest : List Char} (front : value.plain.toList = c :: rest) (bracket : c ∈ openingBrackets) :
    Measured value none := by
  have solid : openingBrackets.all (!isBlank ·) = true := by decide
  rcases exists_trim_cons (by simpa using List.all_eq_true.mp solid c bracket) with ⟨others, kept⟩
  refine ⟨asNumber, nofun, ?_⟩
  rw [readFloat_of_bracket (front ▸ kept) bracket]

theorem IsTree.exists_measured {admitted : String → Prop} {value : Value} (tree : IsTree admitted value) :
    ∃ number, Measured value number := by
  cases tree with
  | null => exact ⟨none, rfl, by simp, by decide +kernel⟩
  | flag value =>
      cases value with
      | false => exact ⟨none, rfl, by simp, by decide +kernel⟩
      | true => exact ⟨none, rfl, by simp, by decide +kernel⟩
  | @integer value convertible =>
      rcases Option.isSome_iff_exists.mp convertible with ⟨x, found⟩
      refine ⟨some x, ?_, ?_, isSome_readFloat_integerText value⟩
      · rw [Value.asNumber, found]
      · simpa using isNaN_of_ofInteger found
  | @double x number => exact ⟨some x, rfl, by simpa using number, isSome_readFloat_floatText x⟩
  | text number isAdmitted => exact ⟨_, rfl, number, rfl⟩
  | @collection shape items isRow trees =>
      rcases exists_bracketed isRow (Value.writtenItems items) with ⟨c, rest, front, bracket⟩
      exact ⟨none, measured_of_bracket rfl front bracket⟩
  | mapping distinct trees =>
      rcases exists_plain_of_mapping _ with ⟨c, rest, front, bracket⟩
      exact ⟨none, measured_of_bracket rfl front bracket⟩

theorem IsTree.unbracketed {value : Value} (tree : IsTree IsBare value) (isPlain : IsPlain value) :
    Unbracketed (trim value.plain.toList) := by
  have unread (some : (readFloat value.plain.toList).isSome = true) :
      Unbracketed (trim value.plain.toList) := by
    cases front : trim value.plain.toList with
    | nil => trivial
    | cons c rest =>
        intro bracket
        rw [readFloat_of_bracket front bracket] at some
        cases some
  cases tree with
  | null => decide +kernel
  | flag value =>
      cases value with
      | false => decide +kernel
      | true => decide +kernel
  | integer => exact unread (isSome_readFloat_integerText _)
  | double => exact unread (isSome_readFloat_floatText _)
  | text number isBare => exact isBare.unbracketed
  | collection => exact isPlain.elim
  | mapping => exact isPlain.elim

end Comparison

end GuardedSteps
