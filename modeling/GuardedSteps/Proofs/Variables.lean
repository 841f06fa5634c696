import GuardedSteps.Proofs.Number.Digits
import GuardedSteps.Variables

/-!
Where paths lead. A token is a row of parts between dots, and a part leads on as a key, as an index or as
the name of an attribute. Whatever attributes values have, what is found for a token is the value at the
end of its parts, or else the token itself; there is no third way unless a part is taken for an index of a
sequence and writes none.
-/

namespace GuardedSteps

namespace Value

open Text Number

/-! ## Indices -/

/-- The part writes an index: a row of decimal digits that is not too long, behind one minus sign at
most. -/
inductive WritesIndex : List Char → Int → Prop
  | fromFront {digits : List Char} (someDigit : digits ≠ []) (decimal : digits.all isDecimal = true)
      (short : digits.length ≤ maxDigits) : WritesIndex digits (digitsValue digits)
  | fromBack {digits : List Char} (someDigit : digits ≠ []) (decimal : digits.all isDecimal = true)
      (short : digits.length ≤ maxDigits) : WritesIndex ('-' :: digits) (-(digitsValue digits : Int))

/-- Without a plus sign a whole number is read exactly from what writes an index. -/
theorem readInteger_eq_ok_iff_writesIndex {part : List Char} (unsigned : part.head? ≠ some '+')
    {index : Int} : readInteger part = .ok index ↔ WritesIndex part index := by
  rw [readInteger_eq_ok_iff]
  constructor
  · rintro ⟨negative, digits, signed, someDigit, decimal, short, rfl⟩
    cases part with
    | nil =>
        cases signed
        exact absurd rfl someDigit
    | cons c rest =>
        by_cases minus : c = '-'
        · subst minus
          cases signed
          exact .fromBack someDigit decimal short
        · rw [splitSign_of_ne (by simpa using unsigned) minus] at signed
          cases signed
          exact .fromFront someDigit decimal short
  · intro writes
    cases writes with
    | @fromFront digits someDigit decimal short =>
        rcases List.exists_cons_of_ne_nil someDigit with ⟨first, rest, rfl⟩
        have front : isDecimal first = true := List.all_eq_true.mp decimal first (by simp)
        exact ⟨false, _, splitSign_of_isDecimal front, someDigit, decimal, short, rfl⟩
    | fromBack someDigit decimal short => exact ⟨true, _, rfl, someDigit, decimal, short, rfl⟩

theorem looksLikeIndex_iff {part : List Char} : looksLikeIndex part = true ↔ ∃ signs digits,
    part = List.replicate signs '-' ++ digits ∧ digits ≠ [] ∧ digits.all isDigit = true := by
  unfold looksLikeIndex
  simp only [Bool.and_eq_true, Bool.not_eq_true', List.isEmpty_eq_false_iff]
  constructor
  · rintro ⟨someDigit, digit⟩
    have signs : part.takeWhile (· == '-') =
        List.replicate (part.takeWhile (· == '-')).length '-' :=
      List.eq_replicate_of_mem fun c member => by simpa using List.mem_takeWhile_imp member
    refine ⟨(part.takeWhile (· == '-')).length, _, ?_, someDigit, digit⟩
    rw [← signs, List.takeWhile_append_dropWhile]
  · rintro ⟨signs, digits, rfl, someDigit, digit⟩
    have dropped : (List.replicate signs '-' ++ digits).dropWhile (· == '-') = digits := by
      rw [List.dropWhile_append_of_pos (by simp)]
      rcases List.exists_cons_of_ne_nil someDigit with ⟨first, rest, rfl⟩
      have front : isDigit first = true := List.all_eq_true.mp digit first (by simp)
      apply List.dropWhile_cons_of_neg
      rw [beq_iff_eq]
      rintro rfl
      exact absurd front (by decide)
    rw [dropped]
    exact ⟨someDigit, digit⟩

theorem head?_of_looksLikeIndex {part : List Char} (looks : looksLikeIndex part = true) :
    part.head? ≠ some '+' := by
  rcases looksLikeIndex_iff.mp looks with ⟨signs, digits, rfl, someDigit, digit⟩
  cases signs with
  | zero =>
      rcases List.exists_cons_of_ne_nil someDigit with ⟨first, rest, rfl⟩
      have front : isDigit first = true := List.all_eq_true.mp digit first (by simp)
      intro plus
      cases plus
      exact absurd front (by decide)
  | succ signs => simp [List.replicate_succ]

theorem WritesIndex.looksLikeIndex {part : List Char} {index : Int} (writes : WritesIndex part index) :
    looksLikeIndex part = true := by
  have digit {digits : List Char} (decimal : digits.all isDecimal = true) :
      digits.all isDigit = true := by
    rw [List.all_eq_true] at decimal ⊢
    exact fun c member => by simp [isDigit, decimal c member]
  cases writes with
  | fromFront someDigit decimal => exact looksLikeIndex_iff.mpr ⟨0, _, rfl, someDigit, digit decimal⟩
  | fromBack someDigit decimal => exact looksLikeIndex_iff.mpr ⟨1, _, rfl, someDigit, digit decimal⟩

/-- The part looks like an index and writes none: there are several minus signs in front of its digits, or
not all of the digits are decimal, or there are more of them than can be read. -/
def LacksIndex (part : List Char) : Prop :=
  ∃ signs digits, part = List.replicate signs '-' ++ digits ∧ digits ≠ [] ∧ digits.all isDigit = true ∧
    (1 < signs ∨ digits.all isDecimal = false ∨ maxDigits < digits.length)

theorem exists_writesIndex_iff {signs : Nat} {digits : List Char} (someDigit : digits ≠ [])
    (digit : digits.all isDigit = true) :
    (∃ index, WritesIndex (List.replicate signs '-' ++ digits) index) ↔
      signs ≤ 1 ∧ digits.all isDecimal = true ∧ digits.length ≤ maxDigits := by
  have minus : isDigit '-' = false ∧ isDecimal '-' = false := by decide
  match signs with
  | 0 =>
      constructor
      · rintro ⟨_, ⟨_, decimal, short⟩ | _⟩
        · exact ⟨Nat.zero_le 1, decimal, short⟩
        · simp [minus.1] at digit
      · rintro ⟨-, decimal, short⟩
        exact ⟨_, .fromFront someDigit decimal short⟩
  | 1 =>
      constructor
      · rintro ⟨_, ⟨_, decimal, _⟩ | ⟨_, decimal, short⟩⟩
        · simp [minus.2] at decimal
        · exact ⟨Nat.le_refl 1, decimal, short⟩
      · rintro ⟨-, decimal, short⟩
        exact ⟨_, .fromBack someDigit decimal short⟩
  | signs + 2 =>
      constructor
      · rintro ⟨_, ⟨_, decimal, _⟩ | ⟨_, decimal, _⟩⟩
        · simp [minus.2, List.replicate_succ] at decimal
        · simp [minus.2] at decimal
      · omega

theorem lacksIndex_iff {part : List Char} : LacksIndex part ↔
    looksLikeIndex part = true ∧ ¬ ∃ index, WritesIndex part index := by
  constructor
  · rintro ⟨signs, digits, rfl, someDigit, digit, unfit⟩
    refine ⟨looksLikeIndex_iff.mpr ⟨signs, digits, rfl, someDigit, digit⟩, ?_⟩
    rw [exists_writesIndex_iff someDigit digit]
    rintro ⟨single, decimal, short⟩
    rcases unfit with several | foreign | long
    · omega
    · cases decimal.symm.trans foreign
    · omega
  · rintro ⟨looks, unwritten⟩
    rcases looksLikeIndex_iff.mp looks with ⟨signs, digits, rfl, someDigit, digit⟩
    refine ⟨signs, digits, rfl, someDigit, digit, ?_⟩
    rw [exists_writesIndex_iff someDigit digit] at unwritten
    by_contra fit
    simp only [not_or, Nat.not_lt, Bool.not_eq_false] at fit
    exact unwritten fit

/-! ## One part -/

theorem sameKey_text_iff {key : Value} {name : String} :
    sameKey key (.text name) = true ↔ key = .text name := by
  cases key with
  | collection shape items => cases shape <;> simp [sameKey]
  | _ => simp [sameKey, wholeKey?]

/-- The part leads from a value to an inner one: as a key of a mapping, of which the first entry counts; as
an index of a sequence, from its end if it is negative; or as the name of an attribute, if the value is no
mapping and the part is not taken for an index of it. -/
inductive StepsTo (attributes : Attributes) : Value → String → Value → Prop
  | entry {before behind : List (Value × Value)} {part : String} {inner : Value}
      (first : ∀ entry ∈ before, entry.1 ≠ .text part) :
      StepsTo attributes (.mapping (before ++ (.text part, inner) :: behind)) part inner
  | element {value inner : Value} {items : List Value} {part : String} {index : Int} {place : Nat}
      (ordered : value.sequence? = some items) (writes : WritesIndex part.toList index)
      (counted : (place : Int) = if index < 0 then index + items.length else index)
      (stands : items[place]? = some inner) : StepsTo attributes value part inner
  | named {value inner : Value} {part : String} (plain : value.entries? = none)
      (other : value.sequence? = none ∨ looksLikeIndex part.toList = false)
      (known : attributes value part = some inner) : StepsTo attributes value part inner

/-- The part is taken for an index of a sequence, and writes none. -/
def Misread (value : Value) (part : String) : Prop :=
  value.sequence? ≠ none ∧ LacksIndex part.toList

theorem entryAt?_eq_some_iff {entries : List (Value × Value)} {name : String} {inner : Value} :
    (entryAt? entries (.text name)).map (·.2) = some inner ↔ ∃ before behind,
      entries = before ++ (.text name, inner) :: behind ∧ ∀ entry ∈ before, entry.1 ≠ .text name := by
  have other (entry : Value × Value) :
      (!sameKey entry.1 (.text name)) = true ↔ entry.1 ≠ .text name := by
    rw [Bool.not_eq_true', Ne, ← sameKey_text_iff, Bool.not_eq_true]
  simp only [entryAt?, Option.map_eq_some_iff, List.find?_eq_some_iff_append, other]
  constructor
  · rintro ⟨⟨key, value⟩, ⟨same, before, behind, whole, first⟩, rfl⟩
    obtain rfl : key = .text name := sameKey_text_iff.mp same
    exact ⟨before, behind, whole, first⟩
  · rintro ⟨before, behind, whole, first⟩
    exact ⟨_, ⟨sameKey_text_iff.mpr rfl, before, behind, whole, first⟩, rfl⟩

theorem elementAt?_eq_some_iff {items : List Value} {index : Int} {inner : Value} :
    elementAt? items index = some inner ↔ ∃ place : Nat,
      (place : Int) = (if index < 0 then index + items.length else index) ∧
        items[place]? = some inner := by
  simp only [elementAt?]
  generalize (if index < 0 then index + (items.length : Int) else index) = counted
  constructor
  · intro found
    split at found
    · cases found
    · next inside => exact ⟨counted.toNat, by omega, found⟩
  · rintro ⟨place, rfl, stands⟩
    simpa using stands

variable {attributes : Attributes}

theorem part?_of_sequence {value : Value} {items : List Value} (ordered : value.sequence? = some items)
    (part : String) : value.part? attributes part =
      if looksLikeIndex part.toList then (readInteger part.toList).map (elementAt? items ·)
      else .ok (attributes value part) := by
  cases value with
  | collection shape items =>
      cases shape with
      | list | tuple =>
          cases ordered
          rfl
      | set | frozenSet => cases ordered
  | bytes values =>
      cases ordered
      rfl
  | null | flag | integer | double | text | mapping | object => cases ordered

theorem part?_of_scalar {value : Value} (plain : value.entries? = none)
    (single : value.sequence? = none) (part : String) :
    value.part? attributes part = .ok (attributes value part) := by
  cases value with
  | mapping entries => cases plain
  | collection shape items =>
      cases shape with
      | list | tuple => cases single
      | set | frozenSet => rfl
  | bytes values => cases single
  | null | flag | integer | double | text | object => rfl

theorem entries?_of_sequence {value : Value} {items : List Value}
    (ordered : value.sequence? = some items) : value.entries? = none := by
  cases value with
  | mapping => cases ordered
  | null | flag | integer | double | text | bytes | collection | object => rfl

theorem entries_or_elements_or_neither (value : Value) : (∃ entries, value = .mapping entries) ∨
    (∃ items, value.sequence? = some items) ∨ value.entries? = none ∧ value.sequence? = none := by
  cases value with
  | mapping entries => exact .inl ⟨entries, rfl⟩
  | collection shape items =>
      cases shape with
      | list | tuple => exact .inr (.inl ⟨items, rfl⟩)
      | set | frozenSet => exact .inr (.inr ⟨rfl, rfl⟩)
  | bytes values => exact .inr (.inl ⟨_, rfl⟩)
  | null | flag | integer | double | text | object => exact .inr (.inr ⟨rfl, rfl⟩)

/-- A part is followed exactly where it leads. -/
theorem part?_eq_some_iff {value : Value} {part : String} {inner : Value} :
    value.part? attributes part = .ok (some inner) ↔ value.StepsTo attributes part inner := by
  constructor
  · intro found
    rcases entries_or_elements_or_neither value with ⟨entries, rfl⟩ | ⟨items, ordered⟩ | ⟨plain, single⟩
    · rcases entryAt?_eq_some_iff.mp (Except.ok.inj found) with ⟨before, behind, rfl, first⟩
      exact .entry first
    · rw [part?_of_sequence ordered] at found
      split at found
      · next looks =>
        cases read : readInteger part.toList with
        | error fault =>
            rw [read] at found
            cases found
        | ok index =>
            rw [read] at found
            rcases elementAt?_eq_some_iff.mp (Except.ok.inj found) with ⟨place, counted, stands⟩
            have writes := (readInteger_eq_ok_iff_writesIndex (head?_of_looksLikeIndex looks)).mp read
            exact .element ordered writes counted stands
      · next unlike =>
        exact .named (entries?_of_sequence ordered) (.inr (Bool.eq_false_iff.mpr unlike))
          (Except.ok.inj found)
    · rw [part?_of_scalar plain single] at found
      exact .named plain (.inl single) (Except.ok.inj found)
  · intro steps
    cases steps with
    | entry first => exact congrArg Except.ok (entryAt?_eq_some_iff.mpr ⟨_, _, rfl, first⟩)
    | element ordered writes counted stands =>
        have looks := writes.looksLikeIndex
        have read := (readInteger_eq_ok_iff_writesIndex (head?_of_looksLikeIndex looks)).mpr writes
        rw [part?_of_sequence ordered, if_pos looks, read]
        exact congrArg Except.ok (elementAt?_eq_some_iff.mpr ⟨_, counted, stands⟩)
    | named plain other known =>
        rcases entries_or_elements_or_neither value with ⟨entries, rfl⟩ | ⟨items, ordered⟩ | ⟨-, single⟩
        · cases plain
        · have unlike := other.resolve_left (by simp [ordered])
          rw [part?_of_sequence ordered, if_neg (Bool.eq_false_iff.mp unlike), known]
        · rw [part?_of_scalar plain single, known]

/-- A part is a fault exactly where it is misread. -/
theorem part?_eq_error_iff {value : Value} {part : String} :
    (∃ fault, value.part? attributes part = .error fault) ↔ value.Misread part := by
  unfold Misread
  rcases entries_or_elements_or_neither value with ⟨entries, rfl⟩ | ⟨items, ordered⟩ | ⟨plain, single⟩
  · constructor
    · rintro ⟨fault, failed⟩
      cases failed
    · rintro ⟨ordered, -⟩
      exact absurd rfl ordered
  · have sequence : value.sequence? ≠ none := by simp [ordered]
    rw [part?_of_sequence ordered, lacksIndex_iff]
    split
    · next looks =>
      simp only [← readInteger_eq_ok_iff_writesIndex (head?_of_looksLikeIndex looks)]
      cases readInteger part.toList with
      | error fault => simp [sequence, looks, Except.map]
      | ok index => simp [Except.map]
    · next unlike => simp [unlike]
  · rw [part?_of_scalar plain single, single]
    simp

/-! ## Rows of parts -/

/-- The parts lead from a value to the last one, step by step. -/
inductive LeadsTo (attributes : Attributes) : Value → List String → Value → Prop
  | here (value : Value) : LeadsTo attributes value [] value
  | further {value inner last : Value} {part : String} {rest : List String}
      (steps : StepsTo attributes value part inner) (leads : LeadsTo attributes inner rest last) :
      LeadsTo attributes value (part :: rest) last

/-- On the way along the parts a value is reached at which the next part is misread. -/
inductive Stumbles (attributes : Attributes) : Value → List String → Prop
  | here {value : Value} {part : String} (misread : Misread value part) (rest : List String) :
      Stumbles attributes value (part :: rest)
  | further {value inner : Value} {part : String} {rest : List String}
      (steps : StepsTo attributes value part inner) (stumbles : Stumbles attributes inner rest) :
      Stumbles attributes value (part :: rest)

theorem follow_eq_some_iff {value : Value} {parts : List String} {last : Value} :
    value.follow attributes parts = .ok (some last) ↔ value.LeadsTo attributes parts last := by
  induction parts generalizing value with
  | nil =>
      constructor
      · intro found
        cases found
        exact .here _
      · intro leads
        cases leads
        rfl
  | cons part rest induction =>
      constructor
      · intro found
        rw [follow] at found
        cases led : value.part? attributes part with
        | error fault =>
            rw [led] at found
            cases found
        | ok step =>
            rw [led] at found
            cases step with
            | none => cases found
            | some inner => exact .further (part?_eq_some_iff.mp led) (induction.mp found)
      · intro leads
        cases leads with
        | further steps leads =>
            rw [follow, part?_eq_some_iff.mpr steps]
            exact induction.mpr leads

theorem follow_eq_error_iff {value : Value} {parts : List String} :
    (∃ fault, value.follow attributes parts = .error fault) ↔ value.Stumbles attributes parts := by
  induction parts generalizing value with
  | nil =>
      constructor
      · rintro ⟨fault, failed⟩
        cases failed
      · rintro ⟨⟩
  | cons part rest induction =>
      constructor
      · rintro ⟨fault, failed⟩
        rw [follow] at failed
        cases led : value.part? attributes part with
        | error fault => exact .here (part?_eq_error_iff.mp ⟨fault, led⟩) rest
        | ok step =>
            rw [led] at failed
            cases step with
            | none => cases failed
            | some inner => exact .further (part?_eq_some_iff.mp led) (induction.mp ⟨fault, failed⟩)
      · intro stumbles
        cases stumbles with
        | here misread =>
            rcases part?_eq_error_iff.mpr misread with ⟨fault, failed⟩
            exact ⟨fault, by rw [follow, failed]; rfl⟩
        | further steps stumbles =>
            rcases induction.mpr stumbles with ⟨fault, failed⟩
            exact ⟨fault, by rw [follow, part?_eq_some_iff.mpr steps]; exact failed⟩

end Value

namespace Variables

/-! ## Tokens -/

/-- The parts between the dots of a token; a token without dots is its only part. -/
structure PartsOf (token : String) (parts : List String) : Prop where
  joined : ".".intercalate parts = token
  undotted : ∀ part ∈ parts, '.' ∉ part.toList
  somePart : parts ≠ []

theorem exists_pathParts (cs : List Char) : ∃ first more, pathParts cs = first :: more ∧
    ['.'].intercalate (first :: more) = cs ∧ ∀ part ∈ first :: more, '.' ∉ part := by
  fun_induction pathParts cs with
  | case1 => exact ⟨[], [], rfl, rfl, by simp⟩
  | case2 c rest dot induction =>
      rcases induction with ⟨first, more, own, joined, undotted⟩
      refine ⟨[], first :: more, by rw [own], ?_, ?_⟩
      · rw [List.intercalate_cons_cons, joined, beq_iff_eq.mp dot]
        rfl
      · rw [List.forall_mem_cons]
        exact ⟨List.not_mem_nil, undotted⟩
  | case3 c rest other part parts own induction =>
      rcases induction with ⟨first, more, same, joined, undotted⟩
      cases own.symm.trans same
      rcases List.forall_mem_cons.mp undotted with ⟨front, behind⟩
      refine ⟨c :: part, parts, rfl, ?_, ?_⟩
      · rw [← joined]
        cases parts with
        | nil => simp
        | cons next parts => simp [List.intercalate_cons_cons]
      · rw [List.forall_mem_cons]
        refine ⟨?_, behind⟩
        rw [List.mem_cons, not_or]
        exact ⟨fun dot => other (by rw [← dot]; rfl), front⟩
  | case4 c rest other empty induction =>
      rcases induction with ⟨first, more, own, -⟩
      cases own.symm.trans empty

theorem partsOf_pathParts (token : String) :
    PartsOf token ((pathParts token.toList).map String.ofList) := by
  rcases exists_pathParts token.toList with ⟨first, more, own, joined, undotted⟩
  rw [own]
  constructor
  case joined =>
    apply String.toList_injective
    rw [String.toList_intercalate, List.map_map]
    simpa [Function.comp_def] using joined
  case undotted =>
    intro part member
    rcases List.mem_map.mp member with ⟨cs, inside, rfl⟩
    simpa using undotted cs inside
  case somePart => simp

def store (bindings : Variables) : Value := .mapping (bindings.map fun entry => (.text entry.1, entry.2))

/-- A token has the value at the end of its parts, or else itself, however they fail to lead there; only
where a part is taken for an index of a sequence and writes none, the look-up is a fault. -/
theorem getOrSelf_follows (attributes : Value.Attributes) (bindings : Variables) (token : String) :
    ∃ parts, PartsOf token parts ∧
      (∀ value, bindings.store.LeadsTo attributes parts value →
        bindings.getOrSelfIn attributes token = .ok value) ∧
      (¬ bindings.store.Stumbles attributes parts →
        (∀ value, ¬ bindings.store.LeadsTo attributes parts value) →
          bindings.getOrSelfIn attributes token = .ok (.text token)) ∧
      ((∃ fault, bindings.getOrSelfIn attributes token = .error fault) ↔
        bindings.store.Stumbles attributes parts) := by
  refine ⟨_, partsOf_pathParts token, ?_, ?_, ?_⟩
  · intro value leads
    have found : bindings.lookupIn? attributes token = .ok (some value) :=
      Value.follow_eq_some_iff.mpr leads
    rw [getOrSelfIn, found]
    rfl
  · intro smooth nowhere
    cases found : bindings.lookupIn? attributes token with
    | error fault => exact absurd (Value.follow_eq_error_iff.mp ⟨fault, found⟩) smooth
    | ok reached =>
        cases reached with
        | none =>
            rw [getOrSelfIn, found]
            rfl
        | some value => exact absurd (Value.follow_eq_some_iff.mp found) (nowhere value)
  · rw [← Value.follow_eq_error_iff]
    change _ ↔ ∃ fault, bindings.lookupIn? attributes token = .error fault
    rw [getOrSelfIn]
    cases bindings.lookupIn? attributes token <;> simp [Except.map]

example : getOrSelf [("users", .collection .tuple [.null, .object [("name", .text "bob")]])]
    "users.-1.name" = .ok (.text "bob") := rfl

/-- Two minus signs in front of a digit are a fault. -/
theorem not_getOrSelf_total : ¬ ∀ (attributes : Value.Attributes) (bindings : Variables) token,
    ∃ value, bindings.getOrSelfIn attributes token = .ok value := by
  intro total
  rcases total Value.field? [("items", .collection .list [.integer 1])] "items.--1" with ⟨value, found⟩
  have failed : getOrSelfIn Value.field? [("items", .collection .list [.integer 1])] "items.--1" =
      .error (.notANumber "--1") := rfl
  cases failed.symm.trans found

end Variables

end GuardedSteps
