import GuardedSteps.Phrase.Read
import GuardedSteps.Phrase.Scan
import GuardedSteps.Proofs.Text.Trim

/-!
The form of phrases. The parts of a phrase are rows of digits, single words, or clauses on one line.
The reader of whole phrases accepts the words of exactly those phrases that are formed in this way,
and the scanner finds no others.
-/

namespace GuardedSteps

namespace Text

/-! ## Words and blanks -/

@[simp] theorem startsBlank_space (cs : List Char) : startsBlank (' ' :: cs) = true := by
  have blank : isBlank ' ' = true := by decide
  exact blank

theorem isBlank_of_mem_wordSpan {cs : List Char} {c : Char} (member : c ∈ (wordSpan cs).1) :
    isBlank c = false := by
  have solid := List.all_eq_true.mp List.all_takeWhile c member
  simpa using solid

theorem wordSpan_solid {word rest : List Char} (solid : ∀ c ∈ word, isBlank c = false)
    (ends : startsBlank rest = true) : wordSpan (word ++ rest) = (word, rest) := by
  have all : ∀ c ∈ word, (!isBlank c) = true := by
    intro c member
    simp [solid c member]
  unfold wordSpan
  rw [List.takeWhile_append_of_pos all, List.dropWhile_append_of_pos all]
  cases rest with
  | nil => simp
  | cons c rest =>
      have blank : isBlank c = true := ends
      simp [blank]

end Text

namespace Extraction

@[simp] theorem phrases_addChar (c : Char) (extraction : Extraction) :
    (extraction.addChar c).phrases = extraction.phrases := by
  unfold addChar
  split <;> simp_all [phrases]

@[simp] theorem phrases_addPhrase (phrase : Phrase) (extraction : Extraction) :
    (extraction.addPhrase phrase).phrases = phrase :: extraction.phrases := by
  simp [phrases, addPhrase]

end Extraction

namespace Phrase

open Text

/-! ## The parts of phrases -/

/-- The parts of a phrase are what its form asks for. -/
def Formed : Phrase → Prop
  | .condition clause => isClause clause = true
  | .inversion => True
  | .timed _ digits => digits ≠ [] ∧ digits.all isDecimal = true
  | .expectation _ typeName => typeName ≠ [] ∧ typeName.all (!isBlank ·) = true

theorem isClause_iff {clause : List Char} :
    isClause clause = true ↔ ∃ subject body, subject ≠ [] ∧ (∀ c ∈ subject, isBlank c = false) ∧
      body ≠ [] ∧ '\n' ∉ body ∧ clause = subject ++ ' ' :: body := by
  constructor
  · intro formed
    have whole := wordSpan_append clause
    have solid : ∀ c ∈ (wordSpan clause).1, isBlank c = false := fun _ => isBlank_of_mem_wordSpan
    unfold isClause at formed
    split at formed
    · next head tail first body spanned =>
      rw [spanned] at whole solid
      exact ⟨head :: tail, first :: body, by simp, solid, by simp, by simpa using formed, whole.symm⟩
    · cases formed
  · rintro ⟨subject, body, someSubject, solid, someBody, line, rfl⟩
    rcases List.exists_cons_of_ne_nil someSubject with ⟨head, tail, rfl⟩
    rcases List.exists_cons_of_ne_nil someBody with ⟨first, rest, rfl⟩
    unfold isClause
    rw [wordSpan_solid solid (startsBlank_space _)]
    simpa using line

/-! ## Reading word for word -/

theorem eq_of_startsTiming? {cs rest : List Char} {timing : Timing}
    (found : startsTiming? cs = some (timing, rest)) : cs = timing.word ++ rest := by
  rcases List.exists_of_findSome?_eq_some found with ⟨other, _, start⟩
  rcases Option.map_eq_some_iff.mp start with ⟨behind, split, equal⟩
  cases equal
  exact after?_eq_some_iff.mp split

theorem startsTiming?_word (timing : Timing) (rest : List Char) :
    startsTiming? (timing.word ++ rest) = some (timing, rest) := by
  cases timing <;> simp [startsTiming?, Timing.word, after?]

theorem asTimed?_eq_some_iff {cs : List Char} {phrase : Phrase} :
    asTimed? cs = some phrase ↔ ∃ timing digits, phrase = .timed timing digits ∧
      phrase.Formed ∧ cs = phrase.words := by
  constructor
  · intro found
    rcases Option.bind_eq_some_iff.mp found with ⟨⟨timing, rest⟩, start, found⟩
    rcases Option.map_eq_some_iff.mp found with ⟨digits, millis, rfl⟩
    rcases Option.bind_eq_some_iff.mp millis with ⟨inner, units, millis⟩
    split at millis
    · next formed =>
      cases millis
      refine ⟨timing, digits, rfl, formed, ?_⟩
      have front : cs = timing.word ++ rest := eq_of_startsTiming? start
      have back : rest = digits ++ unit := before?_eq_some_iff.mp units
      simp [front, back, words]
    · cases millis
  · rintro ⟨timing, digits, rfl, formed, rfl⟩
    have millis : asMillis? (digits ++ unit) = some digits := by
      unfold asMillis?
      rw [before?_append]
      simp only [Option.bind_eq_bind, Option.bind_some]
      exact if_pos formed
    simp [asTimed?, words, startsTiming?_word, millis]

theorem asExpectation?_eq_some_iff {cs : List Char} {phrase : Phrase} :
    asExpectation? cs = some phrase ↔ ∃ article typeName, phrase = .expectation article typeName ∧
      phrase.Formed ∧ cs = phrase.words := by
  constructor
  · intro found
    rcases List.exists_of_findSome?_eq_some found with ⟨article, _, found⟩
    rcases Option.bind_eq_some_iff.mp found with ⟨rest, start, found⟩
    rcases Option.bind_eq_some_iff.mp found with ⟨typeName, thrown, found⟩
    split at found
    · next formed =>
      cases found
      refine ⟨article, typeName, rfl, formed, ?_⟩
      simp [after?_eq_some_iff.mp start, before?_eq_some_iff.mp thrown, words]
    · cases found
  · rintro ⟨article, typeName, rfl, formed, rfl⟩
    rcases formed with ⟨someName, solid⟩
    have solid : ∀ c ∈ typeName, isBlank c = false := by simpa using solid
    cases article <;>
      simp only [asExpectation?, List.findSome?_cons, words, Article.word, after?, List.cons_append,
        List.nil_append] <;>
      simp [someName, if_pos solid]

theorem asCondition?_eq_some_iff {cs : List Char} {phrase : Phrase} :
    asCondition? cs = some phrase ↔ ∃ clause, phrase = .condition clause ∧
      phrase.Formed ∧ cs = phrase.words := by
  constructor
  · intro found
    rcases Option.bind_eq_some_iff.mp found with ⟨rest, start, found⟩
    rcases Option.bind_eq_some_iff.mp found with ⟨clause, arrowed, found⟩
    split at found
    · next formed =>
      cases found
      refine ⟨clause, rfl, formed, ?_⟩
      simp [after?_eq_some_iff.mp start, before?_eq_some_iff.mp arrowed, words]
    · cases found
  · rintro ⟨clause, rfl, formed, rfl⟩
    have formed : isClause clause = true := formed
    simp [asCondition?, words, formed]

/-- Read word for word is exactly what the words of a formed phrase are. -/
theorem ofWords?_eq_some_iff {cs : List Char} {phrase : Phrase} :
    ofWords? cs = some phrase ↔ phrase.Formed ∧ cs = phrase.words := by
  constructor
  · intro found
    unfold ofWords? at found
    split at found
    · next inverted =>
      cases found
      exact ⟨trivial, inverted⟩
    · simp only [Option.orElse_eq_orElse, Option.orElse_eq_or, Option.or_eq_some_iff] at found
      rcases found with timed | ⟨_, expected | ⟨_, conditional⟩⟩
      · rcases asTimed?_eq_some_iff.mp timed with ⟨_, _, _, parts⟩
        exact parts
      · rcases asExpectation?_eq_some_iff.mp expected with ⟨_, _, _, parts⟩
        exact parts
      · rcases asCondition?_eq_some_iff.mp conditional with ⟨_, _, parts⟩
        exact parts
  · rintro ⟨formed, rfl⟩
    cases phrase with
    | condition clause =>
        have found := asCondition?_eq_some_iff.mpr ⟨clause, rfl, formed, rfl⟩
        simp_all [ofWords?, words, ifWord, inversionWords, asTimed?, startsTiming?, Timing.word,
          asExpectation?, Article.word, after?]
    | inversion => simp [ofWords?, words]
    | timed timing digits =>
        have found := asTimed?_eq_some_iff.mpr ⟨timing, digits, rfl, formed, rfl⟩
        have other : (timed timing digits).words ≠ inversionWords := by
          cases timing <;> simp [words, Timing.word, inversionWords]
        simp [ofWords?, found, other]
    | expectation article typeName =>
        have found := asExpectation?_eq_some_iff.mpr ⟨article, typeName, rfl, formed, rfl⟩
        have other : (expectation article typeName).words ≠ inversionWords := by
          cases article <;> simp [words, Article.word, inversionWords]
        have untimed : asTimed? (expectation article typeName).words = none := by
          cases article <;> simp [asTimed?, startsTiming?, words, Article.word, Timing.word, after?]
        simp [ofWords?, found, other, untimed]

theorem solid_of_head?_words (phrase : Phrase) : ∀ c ∈ phrase.words.head?, isBlank c = false := by
  cases phrase with
  | condition clause => simp [words, ifWord]; decide
  | inversion => simp [words, inversionWords]; decide
  | timed timing digits => cases timing <;> simp [words, Timing.word] <;> decide
  | expectation article typeName => cases article <;> simp [words, Article.word] <;> decide

theorem solid_of_getLast?_words (phrase : Phrase) : ∀ c ∈ phrase.words.getLast?, isBlank c = false := by
  cases phrase with
  | condition clause => simp [words, arrow]; decide
  | inversion => simp [words, inversionWords]; decide
  | timed timing digits => simp [words, unit]; decide
  | expectation article typeName => simp [words, thrownWords]; decide

theorem trim_words (phrase : Phrase) : trim phrase.words = phrase.words :=
  trim_eq_self phrase.solid_of_head?_words phrase.solid_of_getLast?_words

/-! ## What the scanner finds -/

theorem line_of_arrow? {cs body behind : List Char} (found : arrow? cs = some (body, behind)) :
    '\n' ∉ body := by
  fun_induction arrow? cs generalizing body with
  | case1 => cases found
  | case2 =>
      cases found
      simp
  | case3 => cases found
  | case4 c rest _ other induction =>
      rcases Option.map_eq_some_iff.mp found with ⟨⟨inner, _⟩, deeper, equal⟩
      cases equal
      simp [Ne.symm other, induction deeper]

theorem startsBlank_of_arrow? {cs body behind : List Char}
    (found : arrow? cs = some (body, behind)) : startsBlank behind = true := by
  fun_induction arrow? cs generalizing body with
  | case1 => cases found
  | case2 c rest after here =>
      cases found
      exact (Option.filter_eq_some_iff.mp here).2
  | case3 => cases found
  | case4 c rest _ _ induction =>
      rcases Option.map_eq_some_iff.mp found with ⟨⟨inner, _⟩, deeper, equal⟩
      cases equal
      exact induction deeper

/-- A condition that is found is a word, a space, a first character on the line, and what comes
before the first arrow behind it. -/
theorem condition?_eq_some_iff {cs behind : List Char} {phrase : Phrase} :
    condition? cs = some (phrase, behind) ↔ ∃ subject first rest body,
      cs = ifWord ++ (subject ++ ' ' :: first :: rest) ∧ subject ≠ [] ∧
      (∀ c ∈ subject, isBlank c = false) ∧ first ≠ '\n' ∧ arrow? rest = some (body, behind) ∧
      phrase = .condition (subject ++ ' ' :: first :: body) := by
  constructor
  · intro found
    rcases Option.bind_eq_some_iff.mp found with ⟨rest, start, found⟩
    have whole := wordSpan_append rest
    have solid : ∀ c ∈ (wordSpan rest).1, isBlank c = false := fun _ => isBlank_of_mem_wordSpan
    simp only at found
    split at found
    · next head tail first more subject spaced =>
      split at found
      · cases found
      · next line =>
        rcases Option.bind_eq_some_iff.mp found with ⟨⟨body, after⟩, arrowed, equal⟩
        cases equal
        rw [subject, spaced] at whole
        rw [subject] at solid
        refine ⟨head :: tail, first, more, body, ?_, by simp, solid, line, arrowed, by rw [subject]⟩
        rw [after?_eq_some_iff.mp start, whole]
    · cases found
  · rintro ⟨subject, first, rest, body, rfl, someSubject, solid, line, arrowed, rfl⟩
    rcases List.exists_cons_of_ne_nil someSubject with ⟨head, tail, rfl⟩
    have spanned := wordSpan_solid solid (startsBlank_space (first :: rest))
    rw [List.cons_append] at spanned
    simp [condition?, spanned, line, arrowed]

theorem formed_of_condition? {cs behind : List Char} {phrase : Phrase}
    (found : condition? cs = some (phrase, behind)) :
    phrase.Formed ∧ startsBlank behind = true := by
  rcases
    condition?_eq_some_iff.mp found with
    ⟨subject, first, rest, body, _, someSubject, solid, line, arrowed, rfl⟩
  refine ⟨isClause_iff.mpr ⟨subject, first :: body, someSubject, solid, by simp, ?_, rfl⟩,
    startsBlank_of_arrow? arrowed⟩
  simp [Ne.symm line, line_of_arrow? arrowed]

theorem formed_of_inversion? {cs behind : List Char} {phrase : Phrase}
    (found : inversion? cs = some (phrase, behind)) :
    phrase.Formed ∧ startsBlank behind = true := by
  rcases Option.bind_eq_some_iff.mp found with ⟨rest, start, found⟩
  split at found
  · next ends =>
    cases found
    exact ⟨trivial, ends⟩
  · cases found

theorem formed_of_timed? {timing : Timing} {cs behind : List Char} {phrase : Phrase}
    (found : timed? timing cs = some (phrase, behind)) :
    phrase.Formed ∧ startsBlank behind = true := by
  rcases Option.bind_eq_some_iff.mp found with ⟨rest, start, found⟩
  rcases Option.bind_eq_some_iff.mp found with ⟨after, units, found⟩
  split at found
  · next parts =>
    cases found
    exact ⟨⟨parts.1, List.all_takeWhile⟩, parts.2⟩
  · cases found

theorem formed_of_expectation? {article : Article} {cs behind : List Char} {phrase : Phrase}
    (found : expectation? article cs = some (phrase, behind)) :
    phrase.Formed ∧ startsBlank behind = true := by
  rcases Option.bind_eq_some_iff.mp found with ⟨rest, start, found⟩
  rcases Option.bind_eq_some_iff.mp found with ⟨after, thrown, found⟩
  split at found
  · next parts =>
    cases found
    exact ⟨⟨parts.1, List.all_takeWhile⟩, parts.2⟩
  · cases found

/-- A phrase that is found has the parts of its form, and ends at a boundary. -/
theorem formed_of_at? {cs behind : List Char} {phrase : Phrase}
    (found : at? cs = some (phrase, behind)) : phrase.Formed ∧ startsBlank behind = true := by
  simp only [at?, Option.orElse_eq_orElse, Option.orElse_eq_or, Option.or_eq_some_iff] at found
  rcases found with found | ⟨_, found | ⟨_, found | ⟨_, found | ⟨_, found | ⟨_, found | ⟨_, found⟩⟩⟩⟩⟩⟩
  · exact formed_of_condition? found
  · exact formed_of_inversion? found
  all_goals first | exact formed_of_timed? found | exact formed_of_expectation? found

theorem found_of_mem_phrases {boundary : Bool} {cs : List Char} {phrase : Phrase}
    (member : phrase ∈ (scan boundary cs).phrases) :
    ∃ front behind, at? front = some (phrase, behind) := by
  fun_induction scan boundary cs with
  | case1 boundary cs first behind found induction =>
      rw [Extraction.phrases_addPhrase, List.mem_cons] at member
      rcases member with rfl | member
      · refine ⟨cs, behind, ?_⟩
        split at found
        · exact found
        · cases found
      · exact induction member
  | case2 => simp [Extraction.phrases] at member
  | case3 boundary c rest _ induction =>
      rw [Extraction.phrases_addChar] at member
      exact induction member

end Phrase

end GuardedSteps
