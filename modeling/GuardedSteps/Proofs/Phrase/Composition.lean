import GuardedSteps.Proofs.Phrase.Lead
import GuardedSteps.Proofs.Phrase.Remainder

/-!
Phrases in front of a text. A text that the extractor takes for a single phrase is found again, as it is,
in front of any other text from which a space divides it. So the extractor can be run on the parts of a
text: put in front, phrases only add themselves to what is found, and the remainder is that of the rest.
-/

namespace GuardedSteps

namespace Extraction

open Text

/-! ## What is put in front of an extraction -/

theorem remainder_addPhrase (phrase : Phrase) (extraction : Extraction) :
    (extraction.addPhrase phrase).remainder = extraction.remainder := by
  rw [remainder, gaps_addPhrase]
  rfl

theorem remainder_addChar {c : Char} (blank : isBlank c = true) (extraction : Extraction) :
    (extraction.addChar c).remainder = extraction.remainder := by
  rcases exists_gaps_addChar c extraction with ⟨gap, more, before, after⟩
  rw [remainder, remainder, before, after, List.map_cons, List.map_cons, trim_cons_of_blank blank]

end Extraction

namespace Phrase

open Text Extraction

/-- The extractor takes the whole text for a single phrase. -/
def Alone (cs : List Char) : Prop := (extract cs).phrases.map words = [cs]

theorem Alone.exists_settled {cs : List Char} (alone : Alone cs) :
    ∃ phrase : Phrase, phrase.Settled ∧ cs = phrase.words := by
  rcases List.map_eq_singleton_iff.mp alone with ⟨phrase, only, same⟩
  have member : phrase ∈ (extract cs).phrases := by simp [only]
  exact ⟨phrase, settled_of_mem_phrases member, same.symm⟩

theorem extract_alone_space {front : List Char} (alone : Alone front) (rest : List Char) :
    (extract (front ++ ' ' :: rest)).phrases.map words = front :: (extract rest).phrases.map words ∧
    (extract (front ++ ' ' :: rest)).remainder = (extract rest).remainder := by
  have blank : isBlank ' ' = true := by decide
  rcases alone.exists_settled with ⟨phrase, settled, rfl⟩
  rw [extract_settled settled blank]
  constructor
  · rw [phrases_addPhrase, phrases_addChar, List.map_cons]
  · rw [remainder_addPhrase, remainder_addChar blank]

/-- Phrases compose. Any number of texts that are single phrases, conditions among them, can be put in
front of a text with single spaces between: the extractor finds each of them as it is and then the
phrases of the text, and it leaves the remainder of the text. -/
theorem extract_joined_front {fronts : List (List Char)} (alone : ∀ front ∈ fronts, Alone front)
    (rest : List Char) :
    (extract ([' '].intercalate (fronts ++ [rest]))).phrases.map words =
      fronts ++ (extract rest).phrases.map words ∧
    (extract ([' '].intercalate (fronts ++ [rest]))).remainder = (extract rest).remainder := by
  induction fronts with
  | nil => simp
  | cons front fronts induction =>
      have own := alone front List.mem_cons_self
      rcases induction fun other member => alone other (List.mem_cons_of_mem front member) with
        ⟨found, left⟩
      have joined : [' '].intercalate (front :: fronts ++ [rest]) =
          front ++ ' ' :: [' '].intercalate (fronts ++ [rest]) := by
        have split := intercalate_append (List.cons_ne_nil front []) (List.concat_ne_nil rest fronts)
        simpa using split
      rcases extract_alone_space own ([' '].intercalate (fronts ++ [rest])) with ⟨more, same⟩
      rw [joined, more, same, found, left]
      exact ⟨rfl, rfl⟩

theorem extract_joined_front_conditions :
    (∀ front ∈ ["if a == b =>".toList, "if c => =>".toList, "it is not true that".toList],
      Alone front) ∧
    (extract "if a == b => if c => => it is not true that => run after 5ms".toList).phrases.map words =
      ["if a == b =>".toList, "if c => =>".toList, "it is not true that".toList,
        "after 5ms".toList] ∧
    (extract "if a == b => if c => => it is not true that => run after 5ms".toList).remainder =
      "=> run".toList := by
  have alone : ∀ front ∈ ["if a == b =>".toList, "if c => =>".toList, "it is not true that".toList],
      Alone front := by
    unfold Alone
    decide +kernel
  have composed := extract_joined_front alone "=> run after 5ms".toList
  have rest : (extract "=> run after 5ms".toList).phrases.map words = ["after 5ms".toList] ∧
      (extract "=> run after 5ms".toList).remainder = "=> run".toList := by decide +kernel
  rw [rest.1, rest.2] at composed
  exact ⟨alone, composed⟩

end Phrase

end GuardedSteps
