import GuardedSteps.Guard.Parse
import GuardedSteps.Proofs.Number.Digits
import GuardedSteps.Proofs.Phrase.Settled
import Mathlib.Data.List.Forall2

/-!
The guards of the phrases of a text. What a phrase denotes is said without reading its words again:
a condition denotes its clause, a timing the number that its digits write, an expectation the type
that its name is resolved to. A text becomes a chain exactly when each of its phrases denotes a
guard, and the chain is made of these guards; otherwise the last phrase without one is to blame.
-/

namespace GuardedSteps

def Phrase.typeName? : Phrase → Option String
  | .expectation _ typeName => some (String.ofList typeName)
  | _ => none

namespace Guard

open Text

/-- The guard that a phrase denotes. -/
inductive Denotes (resolve : Resolver) : Phrase → Guard → Prop
  | condition (clause : List Char) :
      Denotes resolve (.condition clause) ⟨.conditionalSkip (String.ofList clause), {}⟩
  | inversion : Denotes resolve .inversion ⟨.invert, {}⟩
  | timed {timing : Timing} {digits : List Char} (readable : digits.length ≤ Number.maxDigits)
      (bounded : digitsValue digits ≤ maxMillis) :
      Denotes resolve (.timed timing digits) ⟨.timed timing (digitsValue digits), {}⟩
  | expectation {article : Article} {typeName : List Char} {type : ErrorType}
      (resolved : resolve (String.ofList typeName) = .ok (.errorType type)) :
      Denotes resolve (.expectation article typeName) ⟨.expect type, {}⟩

/-! ## One phrase -/

/-- The words of a phrase are read as that phrase. -/
theorem parsePhrase_words (resolve : Resolver) {phrase : Phrase} (formed : phrase.Formed) :
    parsePhrase resolve phrase.words =
      (ruleOf resolve phrase.words phrase).map fun rule => ⟨rule, {}⟩ := by
  have read : Phrase.read? phrase.words = some phrase := by
    simp [Phrase.read?, Phrase.ofWords?_eq_some_iff.mpr ⟨formed, rfl⟩]
  simp [parsePhrase, Phrase.trim_words, read]

theorem parsePhrase_eq_ok_iff {resolve : Resolver} {phrase : Phrase} {guard : Guard}
    (formed : phrase.Formed) :
    parsePhrase resolve phrase.words = .ok guard ↔ Denotes resolve phrase guard := by
  rw [parsePhrase_words resolve formed]
  cases phrase with
  | condition clause =>
      constructor
      · rintro ⟨⟩
        exact .condition clause
      · rintro ⟨⟩
        rfl
  | inversion =>
      constructor
      · rintro ⟨⟩
        exact .inversion
      · rintro ⟨⟩
        rfl
  | timed timing digits =>
      rcases formed with ⟨someDigit, decimal⟩
      simp only [ruleOf, Number.readInteger_digits someDigit decimal]
      constructor
      · intro parsed
        split at parsed
        · cases parsed
        · next value equal =>
          split at equal
          · cases equal
          · next readable =>
            cases equal
            split at parsed
            · cases parsed
            · next millis inRange =>
              rcases Validation.boundedMillis_eq_ok_iff.mp inRange with ⟨equal, bounded⟩
              cases Int.ofNat.inj equal
              cases parsed
              exact .timed (Nat.le_of_not_lt readable) bounded
      · rintro ⟨⟩
        next readable bounded =>
        have inRange := Validation.boundedMillis_eq_ok_iff.mpr ⟨rfl, bounded⟩
        simp [Nat.not_lt.mpr readable, inRange, Except.map]
  | expectation article typeName =>
      simp only [ruleOf]
      cases resolved : resolve (String.ofList typeName) with
      | error failure =>
          constructor
          · rintro ⟨⟩
          · rintro ⟨⟩
            simp_all
      | ok candidate =>
          constructor
          · intro parsed
            cases candidate <;> cases parsed
            exact .expectation resolved
          · rintro ⟨⟩
            next found =>
            cases resolved.symm.trans found
            rfl

theorem parsePhrase_congr {resolve other : Resolver} {phrase : Phrase} (formed : phrase.Formed)
    (agree : ∀ name, phrase.typeName? = some name → other name = resolve name) :
    parsePhrase other phrase.words = parsePhrase resolve phrase.words := by
  rw [parsePhrase_words other formed, parsePhrase_words resolve formed]
  cases phrase with
  | expectation article typeName => simp only [ruleOf, agree (String.ofList typeName) rfl]
  | _ => rfl

/-! ## All phrases, from the last to the first -/

theorem parsePhrases_cons_of_error {resolve : Resolver} {next : Chain} {phrases : List Phrase}
    {failure : Failure} (later : parsePhrases resolve next phrases = .error failure)
    (phrase : Phrase) : parsePhrases resolve next (phrase :: phrases) = .error failure := by
  rw [parsePhrases, later]
  rfl

theorem parsePhrases_cons_of_ok {resolve : Resolver} {next behind : Chain} {phrases : List Phrase}
    (later : parsePhrases resolve next phrases = .ok behind) (phrase : Phrase) :
    parsePhrases resolve next (phrase :: phrases) =
      (parsePhrase resolve phrase.words).map (· :: behind) := by
  rw [parsePhrases, later]
  cases parsePhrase resolve phrase.words <;> rfl

/-- The chain of some phrases is made of the guards that they denote. -/
theorem parsePhrases_eq_ok_iff {resolve : Resolver} {next chain : Chain} {phrases : List Phrase}
    (formed : ∀ phrase ∈ phrases, phrase.Formed) :
    parsePhrases resolve next phrases = .ok chain ↔
      ∃ guards, List.Forall₂ (Denotes resolve) phrases guards ∧ chain = guards ++ next := by
  induction phrases generalizing chain with
  | nil => simp [parsePhrases, eq_comm]
  | cons phrase rest induction =>
      have own := formed phrase (by simp)
      have others : ∀ other ∈ rest, other.Formed := fun other member =>
        formed other (List.mem_cons_of_mem _ member)
      constructor
      · intro parsed
        cases later : parsePhrases resolve next rest with
        | error failure =>
            rw [parsePhrases_cons_of_error later] at parsed
            cases parsed
        | ok behind =>
            rw [parsePhrases_cons_of_ok later] at parsed
            cases first : parsePhrase resolve phrase.words with
            | error failure =>
                rw [first] at parsed
                cases parsed
            | ok guard =>
                rw [first] at parsed
                cases parsed
                rcases (induction others).mp later with ⟨guards, denoted, rfl⟩
                exact ⟨guard :: guards, .cons ((parsePhrase_eq_ok_iff own).mp first) denoted, rfl⟩
      · rintro ⟨_, denoted, rfl⟩
        cases denoted with
        | cons first denoted =>
            have later := (induction others).mpr ⟨_, denoted, rfl⟩
            rw [parsePhrases_cons_of_ok later, (parsePhrase_eq_ok_iff own).mpr first]
            rfl

theorem parsePhrase_ok_of_mem {resolve : Resolver} {next chain : Chain} {phrases : List Phrase}
    (parsed : parsePhrases resolve next phrases = .ok chain) :
    ∀ phrase ∈ phrases, ∃ guard, parsePhrase resolve phrase.words = .ok guard := by
  induction phrases generalizing chain with
  | nil => simp
  | cons first rest induction =>
      cases later : parsePhrases resolve next rest with
      | error failure =>
          rw [parsePhrases_cons_of_error later] at parsed
          cases parsed
      | ok behind =>
          rw [parsePhrases_cons_of_ok later] at parsed
          intro phrase member
          rcases List.mem_cons.mp member with rfl | member
          · cases own : parsePhrase resolve phrase.words with
            | error failure =>
                rw [own] at parsed
                cases parsed
            | ok guard => exact ⟨guard, rfl⟩
          · exact induction later phrase member

theorem exists_last_failing {resolve : Resolver} {next : Chain} {phrases : List Phrase}
    {failure : Failure} (failed : parsePhrases resolve next phrases = .error failure) :
    ∃ left phrase right, phrases = left ++ phrase :: right ∧
      parsePhrase resolve phrase.words = .error failure ∧
      ∀ later ∈ right, ∃ guard, parsePhrase resolve later.words = .ok guard := by
  induction phrases with
  | nil => cases failed
  | cons first rest induction =>
      cases later : parsePhrases resolve next rest with
      | error other =>
          cases (parsePhrases_cons_of_error later first).symm.trans failed
          rcases induction later with ⟨left, phrase, right, rfl, parts⟩
          exact ⟨first :: left, phrase, right, rfl, parts⟩
      | ok behind =>
          rw [parsePhrases_cons_of_ok later] at failed
          cases own : parsePhrase resolve first.words with
          | error found =>
              rw [own] at failed
              cases failed
              exact ⟨[], first, rest, rfl, own, parsePhrase_ok_of_mem later⟩
          | ok guard =>
              rw [own] at failed
              cases failed

/-- The last phrase that cannot be a guard decides how some phrases fail. -/
theorem parsePhrases_eq_error {resolve : Resolver} {next : Chain} {phrase : Phrase}
    {right : List Phrase} {failure : Failure}
    (failed : parsePhrase resolve phrase.words = .error failure)
    (fine : ∀ later ∈ right, ∃ guard, parsePhrase resolve later.words = .ok guard)
    (left : List Phrase) :
    parsePhrases resolve next (left ++ phrase :: right) = .error failure := by
  induction left with
  | nil =>
      cases later : parsePhrases resolve next right with
      | error other =>
          rcases exists_last_failing later with ⟨_, blamed, _, rfl, unfit, _⟩
          rcases fine blamed (by simp) with ⟨guard, fit⟩
          cases unfit.symm.trans fit
      | ok behind =>
          rw [List.nil_append, parsePhrases_cons_of_ok later, failed]
          rfl
  | cons first rest induction => exact parsePhrases_cons_of_error induction first

/-! ## Whole texts -/

theorem formed_of_mem_extract {text : List Char} {phrase : Phrase}
    (member : phrase ∈ (Phrase.extract text).phrases) : phrase.Formed :=
  Phrase.formed_of_settled (Phrase.settled_of_mem_phrases member)

theorem parse_eq_ok_iff {resolve : Resolver} {text : List Char} {chain : Chain} :
    parse resolve text = .ok chain ↔ ∃ guards,
      List.Forall₂ (Denotes resolve) (Phrase.extract text).phrases guards ∧
      chain = guards ++ [always] :=
  parsePhrases_eq_ok_iff fun _ => formed_of_mem_extract

/-- What holds of all guards that phrases denote, and of the one that runs the step, holds of the whole
chain of a text. -/
theorem forall_mem_of_parse {holds : Guard → Prop} {resolve : Resolver}
    (denoted : ∀ phrase guard, Denotes resolve phrase guard → holds guard) (last : holds always)
    {text : List Char} {chain : Chain} (parsed : parse resolve text = .ok chain) :
    ∀ guard ∈ chain, holds guard := by
  rcases parse_eq_ok_iff.mp parsed with ⟨guards, made, rfl⟩
  have front : ∀ guard ∈ guards, holds guard := by
    clear parsed
    generalize (Phrase.extract text).phrases = phrases at made
    induction made with
    | nil => nofun
    | cons first rest induction => exact List.forall_mem_cons.mpr ⟨denoted _ _ first, induction⟩
  intro guard member
  rcases List.mem_append.mp member with inside | behind
  · exact front guard inside
  · rw [List.mem_singleton.mp behind]
    exact last

/-- The phrases of a text and its chain. Every phrase that is found is also read word for word, and
as itself. The text has a chain exactly when all its phrases denote guards, and then the chain is
made of these guards and the one that runs the step. It has none exactly when one of its phrases is
no guard; the last such phrase is reported, and of the phrases before it nothing is resolved: the
failure is the same whatever a resolver would answer to their names. -/
theorem parse_extract (resolve : Resolver) (text : List Char) :
    (∀ phrase ∈ (Phrase.extract text).phrases,
      Phrase.ofWords? (trim phrase.words) = some phrase) ∧
    (∀ chain, parse resolve text = .ok chain ↔ ∃ guards,
      List.Forall₂ (Denotes resolve) (Phrase.extract text).phrases guards ∧
      chain = guards ++ [always]) ∧
    ((∃ failure, parse resolve text = .error failure) ↔
      ∃ phrase ∈ (Phrase.extract text).phrases,
        ∃ failure, parsePhrase resolve phrase.words = .error failure) ∧
    (∀ left phrase right failure, (Phrase.extract text).phrases = left ++ phrase :: right →
      parsePhrase resolve phrase.words = .error failure →
      (∀ later ∈ right, ∃ guard, parsePhrase resolve later.words = .ok guard) →
      ∀ other : Resolver,
        (∀ named ∈ phrase :: right, ∀ name, named.typeName? = some name →
          other name = resolve name) →
        parse other text = .error failure) := by
  refine ⟨?_, fun _ => parse_eq_ok_iff, ?_, ?_⟩
  · intro phrase member
    rw [Phrase.trim_words]
    exact Phrase.ofWords?_eq_some_iff.mpr ⟨formed_of_mem_extract member, rfl⟩
  · constructor
    · rintro ⟨failure, failed⟩
      rcases exists_last_failing failed with ⟨left, phrase, right, split, unfit, _⟩
      exact ⟨phrase, by simp [split], failure, unfit⟩
    · rintro ⟨phrase, member, failure, unfit⟩
      cases parsed : parse resolve text with
      | error found => exact ⟨found, rfl⟩
      | ok chain =>
          rcases parsePhrase_ok_of_mem parsed phrase member with ⟨guard, fit⟩
          cases unfit.symm.trans fit
  · intro left phrase right failure split unfit fine other agree
    have alike : ∀ named ∈ phrase :: right,
        parsePhrase other named.words = parsePhrase resolve named.words := by
      intro named member
      have inside : named ∈ (Phrase.extract text).phrases := by
        rw [split]
        exact List.mem_append_right left member
      exact parsePhrase_congr (formed_of_mem_extract inside) (agree named member)
    rw [parse, split]
    apply parsePhrases_eq_error
    · rw [alike phrase (by simp), unfit]
    · intro later member
      rw [alike later (List.mem_cons_of_mem _ member)]
      exact fine later member

/-! ## What validation promises -/

/-- What is known of a guard after validation. -/
structure Validated (guard : Guard) : Prop where
  known : ∀ kind, guard.rule ≠ .unknown kind
  bounded : ∀ millis, guard.millis? = some millis → millis ≤ maxMillis

theorem validated_of_denotes {resolve : Resolver} {phrase : Phrase} {guard : Guard}
    (denotes : Denotes resolve phrase guard) : guard.Validated := by
  cases denotes with
  | condition clause => exact ⟨by simp, by simp [millis?]⟩
  | inversion => exact ⟨by simp, by simp [millis?]⟩
  | @timed timing digits readable bounded =>
      cases timing <;> exact ⟨by simp [Rule.timed], by simpa [millis?, Rule.timed] using bounded⟩
  | expectation resolved => exact ⟨by simp, by simp [millis?]⟩

theorem validated_always : always.Validated := ⟨by simp [always], by simp [always, millis?]⟩

end Guard

def Chain.Validated (chain : Chain) : Prop := ∀ guard ∈ chain, guard.Validated

end GuardedSteps
