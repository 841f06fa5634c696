import GuardedSteps.Proofs.Guard.Written
import GuardedSteps.Proofs.Guard.Phrases

/-!
Single phrases. A text that is meant to be one phrase is an inversion, an expectation, a timing or, if
it is none of these, a condition; which one it is does not depend on whether it is read word for word or
taken as it is. The phrase of a guard is always read as that guard, whatever stands in its condition.
-/

namespace GuardedSteps

namespace Text

/-! ## Text without its wrapping -/

/-- The fixed characters are taken away in front, once, if they stand there. -/
def WithoutFront (front cs rest : List Char) : Prop :=
  cs = front ++ rest ∨ rest = cs ∧ ¬ front <+: cs

def WithoutBack (back cs rest : List Char) : Prop :=
  cs = rest ++ back ∨ rest = cs ∧ ¬ back <:+ cs

theorem withoutFront_iff {front cs rest : List Char} :
    WithoutFront front cs rest ↔ rest = (after? front cs).getD cs := by
  unfold WithoutFront
  cases found : after? front cs with
  | some behind =>
      rw [after?_eq_some_iff.mp found]
      simp [eq_comm]
  | none =>
      have absent (other : List Char) : cs ≠ front ++ other := fun whole => by
        cases found.symm.trans (after?_eq_some_iff.mpr whole)
      have unfit : ¬ front <+: cs := fun ⟨other, whole⟩ => absent other whole.symm
      simp [absent, unfit]

theorem withoutBack_iff {back cs rest : List Char} :
    WithoutBack back cs rest ↔ rest = (before? back cs).getD cs := by
  unfold WithoutBack
  cases found : before? back cs with
  | some front =>
      rw [before?_eq_some_iff.mp found]
      simp [eq_comm]
  | none =>
      have absent (other : List Char) : cs ≠ other ++ back := fun whole => by
        cases found.symm.trans (before?_eq_some_iff.mpr whole)
      have unfit : ¬ back <:+ cs := fun ⟨other, whole⟩ => absent other whole.symm
      simp [absent, unfit]

end Text

namespace Phrase

open Text

/-- What is left of a text without one `if` in front and then without one arrow at the end. -/
def Unwrapped (cs clause : List Char) : Prop :=
  ∃ rest, WithoutFront ifWord cs rest ∧ WithoutBack arrow rest clause

theorem unwrapped_iff {cs clause : List Char} : Unwrapped cs clause ↔ clause = clauseOf cs := by
  simp [Unwrapped, withoutFront_iff, withoutBack_iff, clauseOf]

theorem clauseOf_words (clause : List Char) : clauseOf (Phrase.condition clause).words = clause := by
  simp [clauseOf, words]

/-! ## Reading -/

theorem exists_digits_of_words_eq {phrase : Phrase} {timing : Timing} {rest : List Char}
    (starts : phrase.words = timing.word ++ rest) :
    ∃ digits, phrase = .timed timing digits ∧ rest = digits ++ unit := by
  cases phrase with
  | condition clause => cases timing <;> simp [words, ifWord, Timing.word] at starts
  | inversion => cases timing <;> simp [words, inversionWords, Timing.word] at starts
  | expectation article typeName =>
      cases article <;> cases timing <;> simp [words, Article.word, Timing.word] at starts
  | timed other digits =>
      have same : other = timing := by
        cases other <;> cases timing <;> simp [words, Timing.word] at starts ⊢
      subst same
      exact ⟨digits, rfl, by simpa [words] using starts.symm⟩

/-- A text of no other form is read as a condition, word for word or not, and its clause is what is
wrapped in it. -/
theorem read?_eq_condition {cs : List Char} (inverted : cs ≠ inversionWords)
    (expected : ∀ article typeName, (Phrase.expectation article typeName).Formed →
      cs ≠ (Phrase.expectation article typeName).words)
    (timed : ∀ timing : Timing, ¬ timing.word <+: cs) :
    read? cs = some (.condition (clauseOf cs)) ∧
      ∀ phrase, ofWords? cs = some phrase → phrase = .condition (clauseOf cs) := by
  have literal : ∀ phrase, ofWords? cs = some phrase → phrase = .condition (clauseOf cs) := by
    intro phrase found
    rcases ofWords?_eq_some_iff.mp found with ⟨formed, rfl⟩
    cases phrase with
    | condition clause => rw [clauseOf_words]
    | inversion => exact absurd rfl inverted
    | timed timing digits =>
        exact absurd ⟨digits ++ unit, by simp [words]⟩ (timed timing)
    | expectation article typeName => exact absurd rfl (expected article typeName formed)
  refine ⟨?_, literal⟩
  unfold read?
  cases found : ofWords? cs with
  | some phrase => rw [literal phrase found]
  | none =>
      cases started : startsTiming? cs with
      | some start =>
          exact absurd ⟨start.2, (eq_of_startsTiming? started).symm⟩ (timed start.1)
      | none => rfl

theorem read?_condition (clause : List Char) :
    read? (Phrase.condition clause).words = some (.condition clause) := by
  have inverted : (condition clause).words ≠ inversionWords := by simp [words, ifWord, inversionWords]
  have expected (article : Article) (typeName : List Char) (_ : (expectation article typeName).Formed) :
      (condition clause).words ≠ (expectation article typeName).words := by
    cases article <;> simp [words, ifWord, Article.word]
  have timed (timing : Timing) : ¬ timing.word <+: (condition clause).words := by
    cases timing <;> simp [words, ifWord, Timing.word]
  rw [(read?_eq_condition inverted expected timed).1, clauseOf_words]

end Phrase

namespace Guard

open Text

theorem parsePhrase_trim (resolve : Resolver) (text : List Char) :
    parsePhrase resolve (trim text) = parsePhrase resolve text := by
  simp only [parsePhrase, trim_trim]

theorem parsePhrase_of_read {resolve : Resolver} {text clause : List Char}
    (read : Phrase.read? (trim text) = some (.condition clause)) :
    parsePhrase resolve text = .ok ⟨.conditionalSkip (String.ofList clause), {}⟩ := by
  simp [parsePhrase, read, ruleOf, Except.map]

/-! ## Timings -/

/-- Decimal digits with the unit behind them write a number of milliseconds. -/
def WritesMillis (cs : List Char) (millis : Nat) : Prop :=
  ∃ digits, cs = digits ++ Phrase.unit ∧ digits ≠ [] ∧ digits.all isDecimal = true ∧
    digitsValue digits = millis

def Readable (text : List Char) : Prop :=
  ∀ row, row <:+: text → row.all isDecimal = true → row.length ≤ Number.maxDigits

theorem parsePhrase_of_no_millis {resolve : Resolver} {text rest : List Char} {timing : Timing}
    (starts : trim text = timing.word ++ rest) (unwritten : ∀ millis, ¬ WritesMillis rest millis) :
    parsePhrase resolve text = .error (.invalidTiming (String.ofList (trim text))) := by
  have unread : Phrase.ofWords? (trim text) = none := by
    cases found : Phrase.ofWords? (trim text) with
    | none => rfl
    | some phrase =>
        rcases Phrase.ofWords?_eq_some_iff.mp found with ⟨formed, words⟩
        rcases Phrase.exists_digits_of_words_eq (words.symm.trans starts) with ⟨digits, rfl, rfl⟩
        exact absurd ⟨digits, rfl, formed.1, formed.2, rfl⟩ (unwritten (digitsValue digits))
  have started : Phrase.startsTiming? (trim text) = some (timing, rest) := by
    rw [starts, Phrase.startsTiming?_word]
  simp [parsePhrase, Phrase.read?, unread, started]

theorem parsePhrase_of_millis {resolve : Resolver} {text rest : List Char} {timing : Timing}
    {millis : Nat} (readable : Readable text) (starts : trim text = timing.word ++ rest)
    (written : WritesMillis rest millis) :
    parsePhrase resolve text = match Validation.boundedMillis millis with
      | .ok bounded => .ok ⟨.timed timing bounded, {}⟩
      | .error complaint => refuse (trim text) complaint ["millis"] := by
  rcases written with ⟨digits, rfl, someDigit, decimal, rfl⟩
  have words : trim text = (Phrase.timed timing digits).words := by simp [starts, Phrase.words]
  have inside : digits <:+: text := by
    rcases (stripped_trim text).around with ⟨left, right, whole, -, -⟩
    exact ⟨left ++ timing.word, Phrase.unit ++ right, by rw [whole, starts]; simp⟩
  have short : ¬ Number.maxDigits < digits.length := Nat.not_lt.mpr (readable digits inside decimal)
  have formed : (Phrase.timed timing digits).Formed := ⟨someDigit, decimal⟩
  rw [← parsePhrase_trim, words, parsePhrase_words resolve formed]
  simp only [ruleOf, Number.readInteger_digits someDigit decimal, short, if_false]
  cases Validation.boundedMillis (digitsValue digits) with
  | ok bounded => rfl
  | error complaint => rfl

/-- What starts like a timing is one if it writes a number of milliseconds that a guard can wait, and has
no reading otherwise. -/
theorem parsePhrase_of_timing {resolve : Resolver} {text rest : List Char} {timing : Timing}
    (readable : Readable text) (starts : trim text = timing.word ++ rest) :
    (∀ millis ≤ maxMillis, WritesMillis rest millis →
      parsePhrase resolve text = .ok ⟨.timed timing millis, {}⟩) ∧
    ((¬ ∃ millis ≤ maxMillis, WritesMillis rest millis) →
      ∃ failure, parsePhrase resolve text = .error failure ∧ failure.type = .parseError) := by
  constructor
  · intro millis bounded written
    have inRange := Validation.boundedMillis_eq_ok_iff.mpr ⟨rfl, bounded⟩
    rw [parsePhrase_of_millis readable starts written, inRange]
  · intro unfit
    by_cases written : ∃ millis, WritesMillis rest millis
    · rcases written with ⟨millis, written⟩
      rw [parsePhrase_of_millis readable starts written]
      cases bounded : Validation.boundedMillis millis with
      | ok other =>
          have same := Validation.boundedMillis_eq_ok_iff.mp bounded
          exact absurd ⟨millis, Int.ofNat.inj same.1 ▸ same.2, written⟩ unfit
      | error complaint => exact ⟨_, rfl, rfl⟩
    · have unwritten : ∀ millis, ¬ WritesMillis rest millis := fun millis own => written ⟨millis, own⟩
      exact ⟨_, parsePhrase_of_no_millis starts unwritten, rfl⟩

/-! ## Inversions and expectations -/

theorem parsePhrase_of_inversion {resolve : Resolver} {text : List Char}
    (words : trim text = Phrase.inversionWords) : parsePhrase resolve text = .ok ⟨.invert, {}⟩ := by
  have formed : Phrase.inversion.Formed := trivial
  rw [← parsePhrase_trim, words]
  exact (parsePhrase_eq_ok_iff formed).mpr .inversion

theorem parsePhrase_of_expectation {resolve : Resolver} {text typeName : List Char} {article : Article}
    (formed : (Phrase.expectation article typeName).Formed)
    (words : trim text = (Phrase.expectation article typeName).words) :
    (∀ guard, parsePhrase resolve text = .ok guard ↔
      ∃ type, resolve (String.ofList typeName) = .ok (.errorType type) ∧ guard = ⟨.expect type, {}⟩) ∧
    ∀ failure, resolve (String.ofList typeName) = .error failure →
      parsePhrase resolve text = .error (reported (trim text) failure) := by
  rw [← parsePhrase_trim, words]
  constructor
  · intro guard
    rw [parsePhrase_eq_ok_iff formed]
    constructor
    · intro denoted
      cases denoted with
      | expectation resolved => exact ⟨_, resolved, rfl⟩
    · rintro ⟨type, resolved, rfl⟩
      exact .expectation resolved
  · intro failure refused
    rw [parsePhrase_words resolve formed]
    simp [ruleOf, refused, Except.mapError, Except.map, bind, Except.bind]

/-! ## All texts -/

/-- What one phrase is read as. The words of an inversion are an inversion. A word between the words of
an expectation is an expectation of what the name is resolved to, and fails as the resolver does. What
starts like a timing is one if a number of milliseconds follows that a guard can wait, and is refused
otherwise. Everything else is a condition, whose clause is the text without one `if` and then without
one arrow, whether or not it is also read word for word. -/
theorem parsePhrase_classified (resolve : Resolver) (text : List Char) (readable : Readable text) :
    (trim text = Phrase.inversionWords → parsePhrase resolve text = .ok ⟨.invert, {}⟩) ∧
    (∀ article typeName, (Phrase.expectation article typeName).Formed →
      trim text = (Phrase.expectation article typeName).words →
      (∀ guard, parsePhrase resolve text = .ok guard ↔
        ∃ type, resolve (String.ofList typeName) = .ok (.errorType type) ∧ guard = ⟨.expect type, {}⟩) ∧
      ∀ failure, resolve (String.ofList typeName) = .error failure →
        parsePhrase resolve text = .error (reported (trim text) failure)) ∧
    (∀ (timing : Timing) rest, trim text = timing.word ++ rest →
      (∀ millis ≤ maxMillis, WritesMillis rest millis →
        parsePhrase resolve text = .ok ⟨.timed timing millis, {}⟩) ∧
      ((¬ ∃ millis ≤ maxMillis, WritesMillis rest millis) →
        ∃ failure, parsePhrase resolve text = .error failure ∧ failure.type = .parseError)) ∧
    (trim text ≠ Phrase.inversionWords →
      (∀ article typeName, (Phrase.expectation article typeName).Formed →
        trim text ≠ (Phrase.expectation article typeName).words) →
      (∀ timing : Timing, ¬ timing.word <+: trim text) →
      ∃ clause, Phrase.Unwrapped (trim text) clause ∧
        parsePhrase resolve text = .ok ⟨.conditionalSkip (String.ofList clause), {}⟩ ∧
        ∀ phrase, Phrase.ofWords? (trim text) = some phrase → phrase = .condition clause) := by
  refine ⟨parsePhrase_of_inversion, ?_, ?_, ?_⟩
  · intro article typeName formed words
    exact parsePhrase_of_expectation formed words
  · intro timing rest starts
    exact parsePhrase_of_timing readable starts
  · intro inverted expected timed
    have read := Phrase.read?_eq_condition inverted expected timed
    exact ⟨_, Phrase.unwrapped_iff.mpr rfl, parsePhrase_of_read read.1, read.2⟩

theorem parsePhrase_twoLines :
    Readable "if if a\n => =>\t".toList ∧
    parsePhrase (fun _ => .ok .nothing) "if if a\n => =>\t".toList =
      .ok ⟨.conditionalSkip "if a\n =>", {}⟩ := by
  have readable : Readable "if if a\n => =>\t".toList := fun row inside _ =>
    Nat.le_trans inside.length_le (by decide)
  have trimmed : trim "if if a\n => =>\t".toList = "if if a\n => =>".toList := by decide
  have classified := (parsePhrase_classified (fun _ => .ok .nothing) _ readable).2.2.2
  rw [trimmed] at classified
  rcases classified (by decide)
    (fun article _ _ => by cases article <;> simp [Phrase.words, Article.word])
    (fun timing => by cases timing <;> decide) with ⟨clause, unwrapped, parsed, -⟩
  refine ⟨readable, ?_⟩
  rw [parsed, Phrase.unwrapped_iff.mp unwrapped]
  rfl

/-! ## The phrases of guards -/

theorem parsePhrase_describe_timed {resolve : Resolver} (timing : Timing) {millis : Nat}
    (bounded : millis ≤ maxMillis) :
    parsePhrase resolve (Rule.timed timing millis).describe.toList = .ok ⟨.timed timing millis, {}⟩ := by
  have value := Number.digitsValue_digitChars millis
  have formed : (Phrase.timed timing (Number.digitChars millis)).Formed :=
    ⟨Number.digitChars_ne_nil millis, Number.isDecimal_digitChars millis⟩
  have denoted : Denotes resolve (.timed timing (Number.digitChars millis))
      ⟨.timed timing (digitsValue (Number.digitChars millis)), {}⟩ :=
    .timed (Number.length_digitChars_le bounded) (by rwa [value])
  rw [value] at denoted
  rw [Rule.describe, timed_phrase?, String.toList_ofList]
  exact (parsePhrase_eq_ok_iff formed).mpr denoted

theorem parsePhrase_describe_condition {resolve : Resolver} (condition : String) :
    parsePhrase resolve (Rule.conditionalSkip condition).describe.toList =
      .ok ⟨.conditionalSkip condition, {}⟩ := by
  have read := Phrase.read?_condition condition.toList
  rw [← Phrase.trim_words] at read
  have parsed : parsePhrase resolve (Phrase.condition condition.toList).words =
    .ok ⟨.conditionalSkip (String.ofList condition.toList), {}⟩ := parsePhrase_of_read read
  simpa [Rule.describe, Rule.phrase?] using parsed

theorem parsePhrase_describe_expect {resolve : Resolver} {type : ErrorType}
    (nameable : Nameable resolve type) :
    parsePhrase resolve (Rule.expect type).describe.toList = .ok ⟨.expect type, {}⟩ := by
  rcases nameable with ⟨someName, solid, resolved⟩
  have formed : (Phrase.expectation (Rule.articleOf type.name.toList) type.name.toList).Formed :=
    ⟨by simpa using someName, by simpa using solid⟩
  rw [← String.ofList_toList (s := type.name)] at resolved
  simpa [Rule.describe, Rule.phrase?] using (parsePhrase_eq_ok_iff formed).mpr (.expectation resolved)

/-- The phrase of a guard that carries nothing but the parameter of its kind is read as this guard, in
front of whatever comes behind it. The condition of the guard may be any text, and a type that it expects
has only to be found under its name. -/
theorem parsePhrase_describe {resolve : Resolver} {guard : Guard} (validated : guard.Validated)
    (own : guard.spare = {}) (guards : guard.rule ≠ .passthrough)
    (nameable : ∀ type, guard.rule = .expect type → Nameable resolve type) (next : Chain) :
    (parsePhrase resolve guard.rule.describe.toList).map (· :: next) = .ok (guard :: next) := by
  rcases guard with ⟨rule, spare⟩
  cases own
  have parsed : parsePhrase resolve rule.describe.toList = .ok ⟨rule, {}⟩ := by
    cases rule with
    | passthrough => exact absurd rfl guards
    | unknown kind => exact absurd rfl (validated.known kind)
    | conditionalSkip condition => exact parsePhrase_describe_condition condition
    | invert => exact parsePhrase_of_inversion rfl
    | delay millis => exact parsePhrase_describe_timed .after (validated.bounded millis rfl)
    | within millis => exact parsePhrase_describe_timed .within (validated.bounded millis rfl)
    | during millis => exact parsePhrase_describe_timed .during (validated.bounded millis rfl)
    | expect type => exact parsePhrase_describe_expect (nameable type rfl)
  rw [parsed]
  rfl

theorem parsePhrase_describe_conjunction :
    let guard : Guard := ⟨.conditionalSkip " a &&\n => =>", {}⟩
    let other : Guard := ⟨.expect .osError, {}⟩
    let resolve := Registry.resolver []
    guard.Validated ∧ Nameable resolve .osError ∧
      (parsePhrase resolve "if  a &&\n => => =>".toList).map (· :: [other]) = .ok [guard, other] ∧
      (parsePhrase resolve "an OSError is thrown when".toList).map (· :: []) = .ok [other] := by
  intro guard other resolve
  have validated : guard.Validated := ⟨nofun, nofun⟩
  have nameable : Nameable resolve .osError := by
    have solid : ErrorType.osError.name.toList.all (fun c => !isBlank c) = true := by decide
    refine ⟨by decide, fun c inside => ?_, rfl⟩
    simpa using List.all_eq_true.mp solid c inside
  refine ⟨validated, nameable, ?_, ?_⟩
  · exact parsePhrase_describe validated rfl nofun (fun type equal => by cases equal) [other]
  · have own : other.Validated := ⟨nofun, nofun⟩
    exact parsePhrase_describe own rfl nofun (fun type equal => by cases equal; exact nameable) []

end Guard

end GuardedSteps
