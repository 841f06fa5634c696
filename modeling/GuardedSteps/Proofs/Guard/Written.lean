import GuardedSteps.Proofs.Guard.Phrases

/-!
The written form of chains. The phrases of the guards of a chain, joined by spaces, are a text of
their own. For a chain that was read from a text this form drops what does not matter there: zeros
in front of a number, digits of other scripts, the wrong article, spaces and plain words between the
phrases. Reading it gives the same chain again.
-/

namespace GuardedSteps

open Text

/-- The phrases of a chain in one text, each one space behind the one before. -/
def Chain.written (chain : Chain) : String :=
  " ".intercalate ((chain.map fun guard => guard.rule.describe).filter (· ≠ ""))

def Chain.phrases (chain : Chain) : List Phrase := chain.filterMap fun guard => guard.rule.phrase?

theorem Chain.toList_written (chain : Chain) :
    (Chain.written chain).toList = [' '].intercalate ((Chain.phrases chain).map Phrase.words) := by
  have texts : ((chain.map fun guard => guard.rule.describe).filter (· ≠ "")).map String.toList =
      (Chain.phrases chain).map Phrase.words := by
    induction chain with
    | nil => rfl
    | cons guard rest induction =>
        cases phrased : guard.rule.phrase? with
        | none => simpa [Chain.phrases, Rule.describe, phrased] using induction
        | some phrase =>
            have someWords : String.ofList phrase.words ≠ "" := by
              simpa using phrase.words_ne_nil
            simpa [Chain.phrases, Rule.describe, phrased, someWords] using induction
  rw [Chain.written, String.toList_intercalate, texts]
  rfl

namespace Guard

/-! ## The phrase of one guard -/

/-- A type can be written by its name: the name is one word, and stands for the type. -/
def Nameable (resolve : Resolver) (type : ErrorType) : Prop :=
  type.name ≠ "" ∧ (∀ c ∈ type.name.toList, isBlank c = false) ∧
    resolve type.name = .ok (.errorType type)

theorem timed_phrase? (timing : Timing) (millis : Nat) :
    (Rule.timed timing millis).phrase? = some (.timed timing (Number.digitChars millis)) := by
  cases timing <;> rfl

/-- The phrase of a guard that was read from a settled phrase is settled, and denotes the guard. -/
theorem exists_phrase_of_denotes {resolve : Resolver} {phrase : Phrase} {guard : Guard}
    (denoted : Denotes resolve phrase guard) (settled : phrase.Settled)
    (nameable : ∀ type, guard.rule = .expect type → Nameable resolve type) :
    ∃ own, guard.rule.phrase? = some own ∧ own.Settled ∧ Denotes resolve own guard := by
  cases denoted with
  | condition clause =>
      refine ⟨.condition clause, by simp [Rule.phrase?], settled, .condition clause⟩
  | inversion => exact ⟨.inversion, rfl, settled, .inversion⟩
  | @timed timing digits _ bounded =>
      have value := Number.digitsValue_digitChars (digitsValue digits)
      refine ⟨.timed timing (Number.digitChars (digitsValue digits)), timed_phrase? _ _,
        Phrase.settled_timed ⟨Number.digitChars_ne_nil _, Number.isDecimal_digitChars _⟩, ?_⟩
      have again : Denotes resolve
          (.timed timing (Number.digitChars (digitsValue digits)))
          ⟨.timed timing (digitsValue (Number.digitChars (digitsValue digits))), {}⟩ :=
        .timed (Number.length_digitChars_le bounded) (by rwa [value])
      rwa [value] at again
  | @expectation _ _ type _ =>
      rcases nameable type rfl with ⟨someName, solid, resolved⟩
      refine ⟨.expectation _ type.name.toList, rfl,
        Phrase.settled_expectation ⟨by simpa using someName, ?_⟩,
        .expectation (by rwa [String.ofList_toList])⟩
      simpa using solid

theorem denotes_phrases {resolve : Resolver} {phrases : List Phrase} {guards : Chain}
    (denoted : List.Forall₂ (Denotes resolve) phrases guards)
    (settled : ∀ phrase ∈ phrases, phrase.Settled)
    (nameable : ∀ guard ∈ guards, ∀ type, guard.rule = .expect type → Nameable resolve type) :
    (∀ phrase ∈ Chain.phrases guards, phrase.Settled) ∧
      List.Forall₂ (Denotes resolve) (Chain.phrases guards) guards := by
  induction denoted with
  | nil => exact ⟨by simp [Chain.phrases], .nil⟩
  | @cons phrase guard phrases guards first _ induction =>
      rcases exists_phrase_of_denotes first
        (settled phrase (by simp)) (nameable guard (by simp)) with ⟨own, phrased, ownSettled, again⟩
      rcases induction
        (fun other member => settled other (List.mem_cons_of_mem _ member))
        (fun other member => nameable other (List.mem_cons_of_mem _ member)) with
        ⟨othersSettled, others⟩
      have split : Chain.phrases (guard :: guards) = own :: Chain.phrases guards := by
        simp [Chain.phrases, phrased]
      rw [split]
      exact ⟨List.forall_mem_cons.mpr ⟨ownSettled, othersSettled⟩, .cons again others⟩

/-! ## Whole chains -/

/-- The written form of a chain that was read from a text is read as the same chain, when the types
that are expected can be written by their names; so it is a written form of its own again. -/
theorem parse_written {resolve : Resolver} {text : List Char} {chain : Chain}
    (parsed : parse resolve text = .ok chain)
    (nameable : ∀ guard ∈ chain, ∀ type, guard.rule = .expect type → Nameable resolve type) :
    ∃ again, parse resolve (Chain.written chain).toList = .ok again ∧ again = chain ∧
      Chain.written again = Chain.written chain := by
  rcases parse_eq_ok_iff.mp parsed with ⟨guards, denoted, rfl⟩
  rcases denotes_phrases denoted (fun _ => Phrase.settled_of_mem_phrases)
    fun guard member => nameable guard (List.mem_append_left _ member) with ⟨settled, again⟩
  have phrases : Chain.phrases (guards ++ [always]) = Chain.phrases guards := by
    simp [Chain.phrases, always, Rule.phrase?]
  refine ⟨guards ++ [always], ?_, rfl, rfl⟩
  rw [parse_eq_ok_iff, Chain.toList_written, phrases, Phrase.phrases_extract_joined settled]
  exact ⟨guards, again, rfl⟩

theorem parse_written_osError :
    let text := "within ٠٠٧ms if a => b => a  IOError a IOError is thrown when it runs".toList
    let chain : Chain := [⟨.within 7, {}⟩, ⟨.conditionalSkip "a => b", {}⟩, ⟨.expect .osError, {}⟩, always]
    parse (Registry.resolver []) text = .ok chain ∧
      (∀ guard ∈ chain, ∀ type, guard.rule = .expect type → Nameable (Registry.resolver []) type) ∧
      Chain.written chain = "within 7ms if a => b => an OSError is thrown when" ∧
      ∃ again, parse (Registry.resolver []) (Chain.written chain).toList = .ok again ∧ again = chain ∧
        Chain.written again = Chain.written chain := by
  intro text chain
  have phrases : (Phrase.extract text).phrases = [.timed .within "٠٠٧".toList,
      .condition "a => b".toList, .expectation .a "IOError".toList] := by decide +kernel
  have resolved : Registry.resolver [] "IOError" = .ok (.errorType .osError) := rfl
  have parsed : parse (Registry.resolver []) text = .ok chain := by
    rw [parse_eq_ok_iff, phrases]
    refine ⟨[⟨.within 7, {}⟩, ⟨.conditionalSkip "a => b", {}⟩, ⟨.expect .osError, {}⟩], ?_, rfl⟩
    exact .cons (.timed (by decide) (by decide)) (.cons (.condition _)
      (.cons (.expectation resolved) .nil))
  have nameable : ∀ guard ∈ chain, ∀ type, guard.rule = .expect type →
      Nameable (Registry.resolver []) type := by
    have solid : ErrorType.osError.name.toList.all (fun c => !isBlank c) = true := by decide
    have own : Nameable (Registry.resolver []) .osError := by
      refine ⟨by decide, fun c inside => ?_, rfl⟩
      simpa using List.all_eq_true.mp solid c inside
    intro guard member type equal
    simp only [chain, List.mem_cons, List.not_mem_nil, or_false] at member
    rcases member with rfl | rfl | rfl | rfl <;> cases equal
    exact own
  exact ⟨parsed, nameable, by decide +kernel, parse_written parsed nameable⟩

end Guard

end GuardedSteps
