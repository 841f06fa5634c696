import GuardedSteps.Proofs.Comparison.Exactness
import GuardedSteps.Proofs.Number.Order

/-!
Flags. What a flag asks for is the operator that its first word names, applied to the operand behind the
word. The operators that ask for equal values, for other values and for an order agree with each other:
none of them is met together with its contrary, and one of the two always is.
-/

namespace GuardedSteps

namespace Comparison

open Number Text

/-! ## Flags with an operator -/

namespace Operator

def word : Operator → List Char
  | .equal => ['=', '=']
  | .unequal => ['!', '=']
  | .ordered .above => ['>']
  | .ordered .atLeast => ['>', '=']
  | .ordered .below => ['<']
  | .ordered .atMost => ['<', '=']
  | .pattern => ['e']
  | .contains => ['c', 'o', 'n', 't', 'a', 'i', 'n', 's']
  | .not => ['n', 'o', 't']

/-- The flag that asks for a value that stands in the relation of the operator to the operand. -/
def flag (operator : Operator) (operand : String) : String :=
  String.ofList ('?' :: (operator.word ++ ' ' :: operand.toList))

example : flag .equal "5" = "?== 5" ∧ flag (.ordered .atMost) "" = "?<= " := by decide +kernel

/-- A value meets the flag of the operator. -/
def MetBy (operator : Operator) (actual : Value) (operand : String) : Prop :=
  Meets actual (.text (operator.flag operand))

instance (operator : Operator) (actual : Value) (operand : String) :
    Decidable (operator.MetBy actual operand) :=
  inferInstanceAs (Decidable (Meets _ _))

theorem lookup_word (operator : Operator) : operators.lookup operator.word = some operator := by
  cases operator with
  | ordered order => cases order <;> rfl
  | _ => rfl

theorem eq_word_of_lookup {word : List Char} {operator : Operator}
    (found : operators.lookup word = some operator) : word = operator.word := by
  rcases List.lookup_eq_some_iff.mp found with ⟨before, behind, split, -⟩
  have listed : (word, operator) ∈ operators := by simp [split]
  have words : operators.all fun entry => entry.1 == entry.2.word := by decide
  exact beq_iff_eq.mp (List.all_eq_true.mp words _ listed)

theorem solid_word (operator : Operator) : operator.word.all (!isBlank ·) = true := by
  cases operator with
  | ordered order => cases order <;> decide
  | _ => decide

end Operator

/-- A text whose first word names an operator and has something blank behind it. -/
def StartsWithOperator (text : String) : Prop :=
  ∃ (operator : Operator) (c : Char) (rest : List Char),
    isBlank c = true ∧ text.toList = operator.word ++ c :: rest

theorem operation?_eq_of_word {text : String} {operator : Operator} {c : Char} {rest : List Char}
    (blank : isBlank c = true) (written : text.toList = operator.word ++ c :: rest) :
    operation? text = some (operator, String.ofList (trim rest)) := by
  have solid := List.all_eq_true.mp operator.solid_word
  have span : wordSpan text.toList = (operator.word, c :: rest) := by
    rw [written, wordSpan, List.takeWhile_append_of_pos solid, List.dropWhile_append_of_pos solid]
    simp [blank]
  unfold operation?
  rw [span]
  simp [operator.lookup_word, trim_cons_of_blank blank]

theorem operation?_eq_none_iff {text : String} : operation? text = none ↔ ¬ StartsWithOperator text := by
  constructor
  · rintro none ⟨operator, c, rest, blank, written⟩
    cases none.symm.trans (operation?_eq_of_word blank written)
  · intro plain
    by_contra read
    rcases Option.ne_none_iff_exists'.mp read with ⟨⟨operator, operand⟩, read⟩
    apply plain
    unfold operation? at read
    cases behind : (wordSpan text.toList).2 with
    | nil => simp [behind] at read
    | cons c rest =>
        simp only [behind, List.isEmpty_cons, Bool.false_eq_true, if_false, Option.map_eq_some_iff,
          Prod.mk.injEq] at read
        rcases read with ⟨named, found, -, -⟩
        have whole : (wordSpan text.toList).1 ++ (wordSpan text.toList).2 = text.toList :=
          List.takeWhile_append_dropWhile
        have blank := List.head?_dropWhile_not (!isBlank ·) text.toList
        rw [show text.toList.dropWhile (!isBlank ·) = c :: rest from behind] at blank
        refine ⟨named, c, rest, by simpa using blank, ?_⟩
        rw [← whole, behind, Operator.eq_word_of_lookup found]

instance (text : String) : Decidable (StartsWithOperator text) :=
  decidable_of_iff (operation? text ≠ none) (not_iff_comm.mp operation?_eq_none_iff.symm)

theorem flag?_cons {cs : List Char} : flag? (String.ofList ('?' :: cs)) = some (String.ofList cs) := by
  rw [flag?, String.toList_ofList]
  rfl

namespace Operator

variable {operator : Operator} {actual : Value} {operand : String}

theorem flag?_flag : flag? (operator.flag operand) =
    some (String.ofList (operator.word ++ ' ' :: operand.toList)) := flag?_cons

theorem satisfies_flag : satisfies actual (String.ofList (operator.word ++ ' ' :: operand.toList)) =
    operator.holds actual (trimmed operand) := by
  have written : (String.ofList (operator.word ++ ' ' :: operand.toList)).toList =
      operator.word ++ ' ' :: operand.toList := String.toList_ofList
  rw [satisfies, operation?_eq_of_word (by decide) written]
  rfl

theorem metBy_iff : operator.MetBy actual operand ↔
    operator.holds actual (trimmed operand) = .ok true := by
  rw [MetBy, meets_flag_iff flag?_flag, satisfies_flag]

end Operator

theorem flag?_bare (operand : String) : flag? ("?" ++ operand) = some operand := by
  have written : "?" ++ operand = String.ofList ('?' :: operand.toList) := by
    rw [← String.toList_inj]
    simp
  rw [written, flag?_cons, String.ofList_toList]

theorem satisfies_bare {actual : Value} {operand : String} (bare : ¬ StartsWithOperator operand) :
    satisfies actual operand = isEqual actual (.text operand) := by
  rw [satisfies, operation?_eq_none_iff.mpr bare]

theorem meets_bare_iff {actual : Value} {operand : String} (bare : ¬ StartsWithOperator operand) :
    Meets actual (.text ("?" ++ operand)) ↔ isEqual actual (.text operand) = .ok true := by
  rw [meets_flag_iff (flag?_bare operand), satisfies_bare bare]

/-! ## Comparing with an operand -/

theorem trimmed_trimmed (text : String) : trimmed (trimmed text) = trimmed text := by
  rw [trimmed, trimmed, String.toList_ofList, trim_trim]

/-- What an operand is compared with is the number of the value or its text. -/
theorem isEqual_text_eq (actual : Value) (operand : String) :
    isEqual actual (.text operand) = do
      let number? ← measured actual.asNumber
      match number?, readFloat operand.toList with
      | some x, some y => return x == y
      | _, _ => return (← measured actual.asText) == trimmed operand := by
  unfold isEqual numbers?
  rw [Value.asNumber]
  cases actual.asNumber with
  | error fault => rfl
  | ok number? =>
      cases number? with
      | none => cases readFloat operand.toList <;> rfl
      | some x => cases readFloat operand.toList <;> rfl

theorem isEqual_trimmed (actual : Value) (operand : String) :
    isEqual actual (.text (trimmed operand)) = isEqual actual (.text operand) := by
  rw [isEqual_text_eq, isEqual_text_eq, readFloat_trimmed, trimmed_trimmed]

theorem isOrdered_trimmed_eq_ok_iff {actual : Value} {order : Order} {operand : String} {holds : Bool} :
    isOrdered actual order (trimmed operand) = .ok holds ↔
      ∃ x y, actual.asNumber = .ok (some x) ∧ readFloat operand.toList = some y ∧
        order.holds x y = holds := by
  unfold isOrdered numbers?
  rw [Value.asNumber, readFloat_trimmed]
  cases actual.asNumber with
  | error fault => simp [Comparison.measured, bind, Except.bind]
  | ok number? =>
      cases number? with
      | none =>
          refine ⟨fun failed => absurd failed ok_of_fail, ?_⟩
          rintro ⟨x, y, same, -⟩
          cases same
      | some x =>
          cases readFloat operand.toList with
          | none =>
              refine ⟨fun failed => absurd failed ok_of_fail, ?_⟩
              rintro ⟨x, y, -, same, -⟩
              cases same
          | some y => simp [Comparison.measured, bind, Except.bind, pure, Except.pure]

/-! ## Comparisons that come to an answer -/

/-- A value whose number and text can be asked for. -/
structure Faultless (value : Value) : Prop where
  asNumber : ∃ number?, value.asNumber = .ok number?
  asText : ∃ text, value.asText = .ok text

def Reported (test : Except Fault Bool) : Prop :=
  ∀ fault, test = .error fault → ∃ mismatch, fault = .mismatch mismatch

theorem isWritable_iff {value : Value} : value.isWritable = true ↔ ∃ text, value.asText = .ok text := by
  unfold Value.asText
  cases value.isWritable <;> simp

instance (value : Value) : Decidable (Faultless value) :=
  decidable_of_iff (value.asNumber.isOk = true ∧ value.isWritable = true) <| by
    have measured : value.asNumber.isOk = true ↔ ∃ number?, value.asNumber = .ok number? := by
      cases value.asNumber <;> simp [Except.isOk, Except.toBool]
    rw [isWritable_iff, measured]
    exact ⟨fun both => ⟨both.1, both.2⟩, fun faultless => ⟨faultless.asNumber, faultless.asText⟩⟩

theorem Faultless.text (text : String) : Faultless (.text text) := ⟨⟨_, rfl⟩, _, rfl⟩

theorem reported_ok (holds : Bool) : Reported (.ok holds) := by
  intro fault failed
  cases failed

theorem reported_fail {mismatch : Mismatch} (writable : Value.areWritable mismatch.values = true) :
    Reported (fail mismatch) := by
  intro fault failed
  rw [fail, if_pos writable] at failed
  cases failed
  exact ⟨mismatch, rfl⟩

theorem reported_map {test : Except Fault Bool} (reported : Reported test) (change : Bool → Bool) :
    Reported (test.map change) := by
  intro fault failed
  cases test with
  | ok => cases failed
  | error own =>
      cases failed
      exact reported _ rfl

/-- A flag is answered if its test is, by a value that can be written. -/
theorem decided_of_reported {actual : Value} {text flag : String} (isFlag : flag? text = some flag)
    (writable : actual.isWritable = true) (reported : Reported (satisfies actual flag)) :
    Decided (meets actual (.text text)) := by
  rw [meets, meetsText, isFlag]
  change Decided (satisfies actual flag >>= fun holds => if holds = true then pure () else fail _)
  cases tested : satisfies actual flag with
  | error fault =>
      rcases reported fault tested with ⟨mismatch, rfl⟩
      trivial
  | ok holds =>
      cases holds with
      | true => trivial
      | false => exact decided_fail (areWritable_iff.mpr (by simpa [Mismatch.values] using writable))

section

variable {actual : Value} (faultless : Faultless actual)

include faultless

theorem Faultless.isWritable : actual.isWritable = true := isWritable_iff.mpr faultless.asText

theorem exists_isEqual_of_faultless {expected : Value} (other : Faultless expected) :
    ∃ equal, isEqual actual expected = .ok equal := by
  rcases faultless with ⟨⟨left, measured⟩, ⟨text, plain⟩⟩
  rcases other with ⟨⟨right, otherMeasured⟩, ⟨otherText, otherPlain⟩⟩
  unfold isEqual numbers?
  rw [measured, otherMeasured, plain, otherPlain]
  cases left with
  | none => exact ⟨_, rfl⟩
  | some x => cases right <;> exact ⟨_, rfl⟩

theorem exists_isEqual_text (operand : String) : ∃ equal, isEqual actual (.text operand) = .ok equal :=
  exists_isEqual_of_faultless faultless (.text operand)

theorem reported_isEqual (operand : String) : Reported (isEqual actual (.text operand)) := by
  rcases exists_isEqual_text faultless operand with ⟨equal, compared⟩
  rw [compared]
  exact reported_ok equal

theorem reported_isOrdered (order : Order) (operand : String) :
    Reported (isOrdered actual order operand) := by
  have refused : Reported (fail (.order actual order.symbol operand)) :=
    reported_fail (areWritable_iff.mpr (by simpa [Mismatch.values] using faultless.isWritable))
  rcases faultless.asNumber with ⟨number?, measured⟩
  unfold isOrdered numbers?
  rw [measured, Value.asNumber]
  cases number? with
  | none => exact refused
  | some x =>
      cases readFloat operand.toList with
      | none => exact refused
      | some y => exact reported_ok (order.holds x y)

theorem reported_holds {operator : Operator} (noPattern : operator ≠ .pattern)
    (noPart : operator ≠ .contains) (operand : String) : Reported (operator.holds actual operand) := by
  cases operator with
  | equal => exact reported_isEqual faultless operand
  | unequal => exact reported_map (reported_isEqual faultless operand) _
  | not => exact reported_map (reported_isEqual faultless operand) _
  | ordered order => exact reported_isOrdered faultless order operand
  | pattern => exact absurd rfl noPattern
  | contains => exact absurd rfl noPart

end

/-! ## Operators that agree -/

def AreNumbers (actual : Value) (operand : String) : Prop :=
  ∃ x y, actual.asNumber = .ok (some x) ∧ readFloat operand.toList = some y ∧
    x.isNaN = false ∧ y.isNaN = false

instance (actual : Value) (operand : String) : Decidable (AreNumbers actual operand) :=
  match measured : actual.asNumber, read : readFloat operand.toList with
  | .ok (some x), some y =>
    decidable_of_iff (x.isNaN = false ∧ y.isNaN = false) (by simp [AreNumbers, measured, read])
  | .ok (some _), none => isFalse (by simp [AreNumbers, read])
  | .ok none, _ => isFalse (by simp [AreNumbers, measured])
  | .error _, _ => isFalse (by simp [AreNumbers, measured])

theorem Operator.metBy_equal_iff {actual : Value} {operand : String} :
    equal.MetBy actual operand ↔ isEqual actual (.text operand) = .ok true := by
  rw [metBy_iff, holds, isEqual_trimmed]

theorem Operator.metBy_ordered_iff {actual : Value} {order : Order} {operand : String} :
    (ordered order).MetBy actual operand ↔ ∃ x y, actual.asNumber = .ok (some x) ∧
      readFloat operand.toList = some y ∧ order.holds x y = true := by
  rw [metBy_iff, holds, isOrdered_trimmed_eq_ok_iff]

theorem metBy_contrary_iff {actual : Value} (faultless : Faultless actual) {operator : Operator}
    (contrary : operator = .unequal ∨ operator = .not) (operand : String) :
    operator.MetBy actual operand ↔ ¬ Operator.equal.MetBy actual operand := by
  have negated : operator.holds actual (trimmed operand) =
      (isEqual actual (.text operand)).map (!·) := by
    rcases contrary with rfl | rfl
    · rw [Operator.holds, isEqual_trimmed]
    · rw [Operator.holds, isEqual_trimmed]
  rcases exists_isEqual_text faultless operand with ⟨equal, compared⟩
  rw [Operator.metBy_iff, negated, Operator.metBy_equal_iff, compared]
  cases equal <;> simp [Except.map]

theorem Order.holds_iff {order : Order} {x y : Float} : order.holds x y = true ↔
    match order with
    | .above => y < x
    | .atLeast => y ≤ x
    | .below => x < y
    | .atMost => x ≤ y := by
  cases order <;> simp [Order.holds]

/-- Of numbers, each order is the contrary of another, and at least is more than or equal. -/
theorem metBy_ordered_of_areNumbers {actual : Value} {operand : String}
    (numbers : AreNumbers actual operand) :
    (Operator.MetBy (.ordered .above) actual operand ↔ ¬ Operator.MetBy (.ordered .atMost) actual operand) ∧
    (Operator.MetBy (.ordered .below) actual operand ↔ ¬ Operator.MetBy (.ordered .atLeast) actual operand) ∧
    (Operator.MetBy (.ordered .atLeast) actual operand ↔
      Operator.MetBy (.ordered .above) actual operand ∨ Operator.MetBy .equal actual operand) := by
  rcases numbers with ⟨x, y, measured, read, first, second⟩
  have ordered (order : Order) : Operator.MetBy (.ordered order) actual operand ↔
      order.holds x y = true := by
    rw [Operator.metBy_ordered_iff, measured, read]
    simp
  have equal : Operator.MetBy .equal actual operand ↔ (y == x) = true := by
    rw [Operator.metBy_equal_iff, isEqual_text_eq, measured, read]
    change Except.ok (x == y) = .ok true ↔ _
    rw [Except.ok.injEq, float_beq_comm]
  simp only [ordered, equal, Order.holds_iff]
  refine ⟨?_, ?_, ?_⟩
  · rw [float_le_iff_not_lt first second, not_not]
  · rw [float_le_iff_not_lt second first, not_not]
  · exact float_le_iff_lt_or_beq

theorem Order.le_or_le_of_holds {order : Order} {x y : Float} (holds : order.holds x y = true) :
    x ≤ y ∨ y ≤ x := by
  rw [holds_iff] at holds
  cases order with
  | above => exact .inr (float_le_iff_lt_or_beq.mpr (.inl holds))
  | atLeast => exact .inr holds
  | below => exact .inl (float_le_iff_lt_or_beq.mpr (.inl holds))
  | atMost => exact .inl holds

theorem not_metBy_ordered {actual : Value} {operand : String} (others : ¬ AreNumbers actual operand)
    (order : Order) : ¬ Operator.MetBy (.ordered order) actual operand := by
  rw [Operator.metBy_ordered_iff]
  rintro ⟨x, y, measured, read, holds⟩
  have none : x.isNaN = true ∨ y.isNaN = true := by
    by_contra numbers
    simp only [not_or, Bool.not_eq_true] at numbers
    exact others ⟨x, y, measured, read, numbers.1, numbers.2⟩
  rcases Order.le_or_le_of_holds holds with below | above
  · exact float_not_le_of_isNaN none below
  · exact float_not_le_of_isNaN none.symm above

/-- The operators agree. Of a value whose number and text can be asked for, each flag holds or is reported
as a mismatch. It is unequal to an operand when it is not equal, and the operand alone asks for what is
equal, unless it starts with an operator itself. Of numbers, each order is the contrary of another, and at
least is more than or equal; in every other case no order holds. -/
theorem flags_agree {actual : Value} (faultless : Faultless actual) (operand : String) :
    (∀ operator : Operator, operator ≠ .pattern → operator ≠ .contains →
      Decided (meets actual (.text (operator.flag operand)))) ∧
    (Operator.MetBy .unequal actual operand ↔ ¬ Operator.MetBy .equal actual operand) ∧
    (Operator.MetBy .not actual operand ↔ ¬ Operator.MetBy .equal actual operand) ∧
    (¬ StartsWithOperator operand → Decided (meets actual (.text ("?" ++ operand))) ∧
      (Meets actual (.text ("?" ++ operand)) ↔ Operator.MetBy .equal actual operand)) ∧
    (AreNumbers actual operand →
      (Operator.MetBy (.ordered .above) actual operand ↔
        ¬ Operator.MetBy (.ordered .atMost) actual operand) ∧
      (Operator.MetBy (.ordered .below) actual operand ↔
        ¬ Operator.MetBy (.ordered .atLeast) actual operand) ∧
      (Operator.MetBy (.ordered .atLeast) actual operand ↔
        Operator.MetBy (.ordered .above) actual operand ∨ Operator.MetBy .equal actual operand)) ∧
    (¬ AreNumbers actual operand → ∀ order, ¬ Operator.MetBy (.ordered order) actual operand) := by
  refine ⟨fun operator noPattern noPart => ?_, metBy_contrary_iff faultless (.inl rfl) operand,
    metBy_contrary_iff faultless (.inr rfl) operand, fun bare => ⟨?_, ?_⟩,
    metBy_ordered_of_areNumbers, not_metBy_ordered⟩
  · refine decided_of_reported Operator.flag?_flag faultless.isWritable ?_
    rw [Operator.satisfies_flag]
    exact reported_holds faultless noPattern noPart _
  · refine decided_of_reported (flag?_bare operand) faultless.isWritable ?_
    rw [satisfies_bare bare]
    exact reported_isEqual faultless operand
  · rw [meets_bare_iff bare, Operator.metBy_equal_iff]

theorem flags_agree_five :
    (Faultless (.text " 5 ") ∧ AreNumbers (.text " 5 ") "4.50" ∧
      ¬ Operator.MetBy (.ordered .atMost) (.text " 5 ") "4.50" ∧
      Operator.MetBy (.ordered .atLeast) (.text " 5 ") "4.50") ∧
    Faultless (.text "not") ∧ ¬ StartsWithOperator "not" ∧ ¬ AreNumbers (.text "not") "not" ∧
      Meets (.text "not") (.text ("?" ++ "not")) ∧
      ¬ Operator.MetBy (.ordered .atLeast) (.text "not") "not" := by
  constructor
  · have faultless : Faultless (.text " 5 ") := by decide +kernel
    have numbers : AreNumbers (.text " 5 ") "4.50" := by decide +kernel
    have above : Operator.MetBy (.ordered .above) (.text " 5 ") "4.50" := by decide +kernel
    rcases flags_agree faultless "4.50" with ⟨-, -, -, -, ordered, -⟩
    rcases ordered numbers with ⟨contrary, -, least⟩
    exact ⟨faultless, numbers, contrary.mp above, least.mpr (.inl above)⟩
  · have faultless : Faultless (.text "not") := by decide +kernel
    have plain : ¬ StartsWithOperator "not" := by decide +kernel
    have others : ¬ AreNumbers (.text "not") "not" := by decide +kernel
    have equal : Operator.MetBy .equal (.text "not") "not" := by decide +kernel
    rcases flags_agree faultless "not" with ⟨-, -, -, bare, -, unordered⟩
    exact ⟨faultless, plain, others, (bare plain).2.mpr equal, unordered others _⟩

end Comparison

end GuardedSteps
