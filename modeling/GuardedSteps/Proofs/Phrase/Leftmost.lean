import Mathlib.Data.List.Forall2
import GuardedSteps.Proofs.Phrase.Settled

/-!
The scan of a text goes from left to right. A phrase may stand at a place of a text when its words
are there and it starts and ends at a boundary. The scanner takes the shortest phrase that may stand
at a place, and leaves a place to a gap only when no phrase may stand there. What is not part of a
phrase is kept in the remainder, except for blanks.
-/

namespace GuardedSteps

namespace Text

/-! ## The ends of a text -/

def endsBlank (cs : List Char) : Bool := startsBlank cs.reverse

@[simp] theorem endsBlank_concat (cs : List Char) (c : Char) : endsBlank (cs ++ [c]) = isBlank c := by
  simp [endsBlank, startsBlank]

theorem endsBlank_append_of_solid {cs : List Char} (before : List Char) (some : cs ≠ [])
    (solid : ∀ c ∈ cs.getLast?, isBlank c = false) : endsBlank (before ++ cs) = false := by
  rcases List.eq_nil_or_concat cs with empty | ⟨front, last, rfl⟩
  · exact absurd empty some
  · rw [List.concat_eq_append, ← List.append_assoc, endsBlank_concat]
    exact solid last (by simp)

def solidPart (cs : List Char) : List Char := cs.filter (!isBlank ·)

@[simp] theorem solidPart_append (left right : List Char) :
    solidPart (left ++ right) = solidPart left ++ solidPart right :=
  List.filter_append ..

theorem solidPart_eq_nil {cs : List Char} (blank : ∀ c ∈ cs, isBlank c = true) :
    solidPart cs = [] := by
  simpa [solidPart] using blank

theorem Stripped.solidPart_eq {cs part : List Char} (stripped : Stripped cs part) :
    solidPart part = solidPart cs := by
  rcases stripped.around with ⟨left, right, rfl, leftBlank, rightBlank⟩
  simp [solidPart_eq_nil leftBlank, solidPart_eq_nil rightBlank]

theorem solidPart_intercalate (parts : List (List Char)) :
    solidPart ([' '].intercalate parts) = solidPart parts.flatten := by
  have space : solidPart [' '] = [] := by decide
  induction parts with
  | nil => rfl
  | cons first rest induction =>
      cases rest with
      | nil => simp
      | cons second more =>
          rw [List.intercalate_cons_cons, List.flatten_cons, solidPart_append, solidPart_append, space,
            induction, solidPart_append, List.append_nil]

theorem solidPart_joined {texts parts : List (List Char)} (stripped : List.Forall₂ Stripped texts parts) :
    solidPart ([' '].intercalate (parts.filter (!·.isEmpty))) = solidPart texts.flatten := by
  rw [solidPart_intercalate, List.flatten_filter_not_isEmpty]
  induction stripped with
  | nil => rfl
  | cons first _ induction => simp [first.solidPart_eq, induction]

end Text

namespace Extraction

/-! ## The places of a text that has been taken apart -/

/-- A phrase that was found, with what is before it and behind it in the text. -/
def FoundAt (extraction : Extraction) (before : List Char) (phrase : Phrase)
    (behind : List Char) : Prop :=
  ∃ front gap more, extraction.found = front ++ (gap, phrase) :: more ∧
    before = text ⟨front, gap⟩ ∧ behind = text ⟨more, extraction.tail⟩

/-- A place inside a gap, with what is before it and behind it in the text. The place where a gap
ends because a phrase starts there is not inside the gap. -/
def InGap (extraction : Extraction) (before behind : List Char) : Prop :=
  (∃ front left c right phrase more, extraction.found = front ++ (left ++ c :: right, phrase) :: more ∧
    before = text ⟨front, left⟩ ∧ behind = text ⟨(c :: right, phrase) :: more, extraction.tail⟩) ∨
  ∃ left, extraction.tail = left ++ behind ∧ before = text ⟨extraction.found, left⟩

theorem FoundAt.text_eq {extraction : Extraction} {before behind : List Char} {phrase : Phrase}
    (found : extraction.FoundAt before phrase behind) :
    before ++ phrase.words ++ behind = extraction.text := by
  rcases found with ⟨front, gap, more, whole, rfl, rfl⟩
  simp [text, whole]

theorem InGap.text_eq {extraction : Extraction} {before behind : List Char}
    (inside : extraction.InGap before behind) : before ++ behind = extraction.text := by
  rcases inside with ⟨front, left, c, right, phrase, more, whole, rfl, rfl⟩ | ⟨left, whole, rfl⟩
  · simp [text, whole]
  · simp [text, whole]

theorem FoundAt.of_addChar {c : Char} {extraction : Extraction} {before behind : List Char}
    {phrase : Phrase} (found : (extraction.addChar c).FoundAt before phrase behind) :
    ∃ inner, before = c :: inner ∧ extraction.FoundAt inner phrase behind := by
  rcases found with ⟨front, gap, more, whole, rfl, rfl⟩
  rcases extraction with ⟨parts, tail⟩
  cases parts with
  | nil => simp [addChar] at whole
  | cons part parts =>
      rcases part with ⟨gap, own⟩
      cases front with
      | nil =>
          simp only [addChar, List.nil_append, List.cons.injEq, Prod.mk.injEq] at whole
          rcases whole with ⟨⟨rfl, rfl⟩, rfl⟩
          exact ⟨gap, rfl, [], gap, parts, rfl, rfl, rfl⟩
      | cons first front =>
          simp only [addChar, List.cons_append, List.cons.injEq] at whole
          rcases whole with ⟨rfl, rfl⟩
          exact ⟨_, rfl, (gap, own) :: front, _, more, rfl, rfl, rfl⟩

theorem FoundAt.of_addPhrase {first : Phrase} {extraction : Extraction} {before behind : List Char}
    {phrase : Phrase} (found : (extraction.addPhrase first).FoundAt before phrase behind) :
    (before = [] ∧ phrase = first ∧ behind = extraction.text) ∨
      ∃ inner, before = first.words ++ inner ∧ extraction.FoundAt inner phrase behind := by
  rcases found with ⟨front, gap, more, whole, rfl, rfl⟩
  cases front with
  | nil =>
      simp only [addPhrase, List.nil_append, List.cons.injEq, Prod.mk.injEq] at whole
      rcases whole with ⟨⟨rfl, rfl⟩, rfl⟩
      exact .inl ⟨rfl, rfl, rfl⟩
  | cons part front =>
      simp only [addPhrase, List.cons_append, List.cons.injEq] at whole
      rcases whole with ⟨rfl, whole⟩
      refine .inr ⟨text ⟨front, gap⟩, ?_, front, gap, more, whole, rfl, rfl⟩
      simp [text]

theorem InGap.of_addChar {c : Char} {extraction : Extraction} {before behind : List Char}
    (inside : (extraction.addChar c).InGap before behind) :
    (before = [] ∧ behind = c :: extraction.text) ∨
      ∃ inner, before = c :: inner ∧ extraction.InGap inner behind := by
  rcases extraction with ⟨parts, tail⟩
  rcases inside with ⟨front, left, d, right, phrase, more, whole, rfl, rfl⟩ | ⟨left, whole, rfl⟩
  · cases parts with
    | nil => simp [addChar] at whole
    | cons part parts =>
        rcases part with ⟨gap, own⟩
        cases front with
        | nil =>
            simp only [addChar, List.nil_append, List.cons.injEq, Prod.mk.injEq] at whole
            rcases whole with ⟨⟨place, rfl⟩, rfl⟩
            cases left with
            | nil =>
                cases place
                exact .inl ⟨rfl, rfl⟩
            | cons _ left =>
                cases place
                exact .inr ⟨left, rfl, .inl ⟨[], left, d, right, own, parts, rfl, rfl, rfl⟩⟩
        | cons first front =>
            simp only [addChar, List.cons_append, List.cons.injEq] at whole
            rcases whole with ⟨rfl, rfl⟩
            exact .inr ⟨_, rfl, .inl ⟨(gap, own) :: front, left, d, right, phrase, more, rfl, rfl, rfl⟩⟩
  · cases parts with
    | nil =>
        cases left with
        | nil =>
            cases whole
            exact .inl ⟨rfl, rfl⟩
        | cons _ left =>
            cases whole
            exact .inr ⟨left, rfl, .inr ⟨left, rfl, rfl⟩⟩
    | cons part parts => exact .inr ⟨_, rfl, .inr ⟨left, whole, rfl⟩⟩

theorem InGap.of_addPhrase {first : Phrase} {extraction : Extraction} {before behind : List Char}
    (inside : (extraction.addPhrase first).InGap before behind) :
    ∃ inner, before = first.words ++ inner ∧ extraction.InGap inner behind := by
  rcases inside with ⟨front, left, c, right, phrase, more, whole, rfl, rfl⟩ | ⟨left, whole, rfl⟩
  · cases front with
    | nil => simp [addPhrase] at whole
    | cons part front =>
        simp only [addPhrase, List.cons_append, List.cons.injEq] at whole
        rcases whole with ⟨rfl, whole⟩
        refine ⟨text ⟨front, left⟩, ?_, .inl ⟨front, left, c, right, phrase, more, whole, rfl, rfl⟩⟩
        simp [text]
  · refine ⟨text ⟨extraction.found, left⟩, ?_, .inr ⟨left, whole, rfl⟩⟩
    simp [text, addPhrase]

end Extraction

namespace Phrase

open Text Extraction

/-! ## Phrases that may stand at a place -/

/-- A phrase may stand between what is before it and what is behind it. -/
structure Stands (phrase : Phrase) (before behind : List Char) : Prop where
  formed : phrase.Formed
  starts : endsBlank before = true
  ends : startsBlank behind = true

def Vacant (before rest : List Char) : Prop :=
  ∀ phrase behind, rest = words phrase ++ behind → ¬ phrase.Stands before behind

def Shortest (phrase : Phrase) (before behind : List Char) : Prop :=
  ∀ (other : Phrase) (after : List Char), other.words ++ after = phrase.words ++ behind → other.Stands before after →
    phrase.words.length ≤ other.words.length

theorem exists_arrow? {body behind : List Char} (line : '\n' ∉ body)
    (ends : startsBlank behind = true) : ∃ inner after,
    arrow? (body ++ arrow ++ behind) = some (inner, after) ∧ inner.length ≤ body.length := by
  induction body with
  | nil =>
      refine ⟨[], behind, ?_, by simp⟩
      have here : (after? arrow (' ' :: '=' :: '>' :: behind)).filter startsBlank = some behind := by
        simp [arrow, after?, Option.filter, ends]
      change arrow? (' ' :: '=' :: '>' :: behind) = _
      rw [arrow?, here]
  | cons c rest induction =>
      rw [List.mem_cons, not_or] at line
      rcases induction line.2 with ⟨inner, after, found, shorter⟩
      rw [List.cons_append, List.cons_append, arrow?]
      split
      · next first _ => exact ⟨[], first, rfl, by simp⟩
      · rw [if_neg (Ne.symm line.1), found]
        exact ⟨c :: inner, after, rfl, by simpa using shorter⟩

theorem exists_condition? {clause behind : List Char} (formed : isClause clause = true)
    (ends : startsBlank behind = true) : ∃ inner after,
    condition? ((condition clause).words ++ behind) = some (.condition inner, after) ∧
      inner.length ≤ clause.length := by
  rcases isClause_iff.mp formed with ⟨subject, body, someSubject, solid, someBody, line, rfl⟩
  rcases List.exists_cons_of_ne_nil someBody with ⟨first, rest, rfl⟩
  rw [List.mem_cons, not_or] at line
  rcases exists_arrow? line.2 ends with ⟨inner, after, arrowed, shorter⟩
  have found : condition? ((condition (subject ++ ' ' :: first :: rest)).words ++ behind) =
      some (.condition (subject ++ ' ' :: first :: inner), after) :=
    condition?_eq_some_iff.mpr ⟨subject, first, rest ++ arrow ++ behind, inner, by simp [words],
      someSubject, solid, Ne.symm line.1, arrowed, rfl⟩
  exact ⟨_, after, found, by simpa using shorter⟩

/-- A phrase that may stand somewhere is found there, or a shorter one is. -/
theorem exists_at? {phrase : Phrase} {behind : List Char} (formed : phrase.Formed)
    (ends : startsBlank behind = true) : ∃ other after,
    at? (phrase.words ++ behind) = some (other, after) ∧
      other.words.length ≤ phrase.words.length := by
  cases phrase with
  | condition clause =>
      rcases exists_condition? formed ends with ⟨inner, after, found, shorter⟩
      refine ⟨.condition inner, after, by simp [at?, found], ?_⟩
      simpa [words] using shorter
  | inversion => exact ⟨_, behind, settled_inversion behind ends, Nat.le_refl _⟩
  | timed timing digits => exact ⟨_, behind, settled_timed formed behind ends, Nat.le_refl _⟩
  | expectation article typeName =>
      exact ⟨_, behind, settled_expectation formed behind ends, Nat.le_refl _⟩

theorem shortest_of_at? {cs before behind : List Char} {phrase : Phrase}
    (found : at? cs = some (phrase, behind)) : phrase.Shortest before behind := by
  intro other after same stands
  rcases exists_at? stands.formed stands.ends with ⟨first, rest, taken, shorter⟩
  rw [same, at?_eq found, found] at taken
  cases taken
  exact shorter

theorem vacant_of_at? {before rest : List Char} (missing : at? rest = none) : Vacant before rest := by
  rintro phrase behind rfl stands
  rcases exists_at? stands.formed stands.ends with ⟨_, _, found, _⟩
  cases missing.symm.trans found

theorem vacant_of_inside {before rest : List Char} (inside : endsBlank before = false) :
    Vacant before rest := by
  intro phrase behind _ stands
  cases inside.symm.trans stands.starts

theorem vacant_nil (before : List Char) : Vacant before [] := by
  intro phrase behind empty _
  exact phrase.words_ne_nil (List.append_eq_nil_iff.mp empty.symm).1

/-! ## The scan -/

/-- What the scanner leaves to a gap is a place where no phrase may stand. -/
theorem vacant_of_skipped {before rest : List Char}
    (missing : (if endsBlank before then at? rest else none) = none) : Vacant before rest := by
  split at missing
  · exact vacant_of_at? missing
  · next inside => exact vacant_of_inside (by simpa using inside)

/-- Each phrase that is found may stand where it was found, and is the shortest there. -/
theorem stands_of_foundAt {boundary : Bool} {cs before behind : List Char} {phrase : Phrase}
    (prior : List Char) (place : boundary = endsBlank prior)
    (found : (scan boundary cs).FoundAt before phrase behind) :
    phrase.Stands (prior ++ before) behind ∧ phrase.Shortest (prior ++ before) behind := by
  fun_induction scan boundary cs generalizing prior before with
  | case1 boundary cs first rest taken induction =>
      split at taken
      · next starts =>
        rcases found.of_addPhrase with ⟨rfl, rfl, rfl⟩ | ⟨inner, rfl, later⟩
        · rw [text_scan, List.append_nil]
          have parts := formed_of_at? taken
          exact ⟨⟨parts.1, place ▸ starts, parts.2⟩, shortest_of_at? taken⟩
        · rw [← List.append_assoc]
          refine induction _ ?_ later
          exact (endsBlank_append_of_solid prior first.words_ne_nil first.solid_of_getLast?_words).symm
      · cases taken
  | case2 =>
      rcases found with ⟨front, gap, more, whole, _⟩
      simp at whole
  | case3 boundary c rest missing induction =>
      rcases found.of_addChar with ⟨inner, rfl, later⟩
      rw [List.append_cons]
      exact induction _ (endsBlank_concat prior c).symm later

/-- Nowhere in a gap a phrase may stand. -/
theorem vacant_of_inGap {boundary : Bool} {cs before behind : List Char} (prior : List Char)
    (place : boundary = endsBlank prior) (inside : (scan boundary cs).InGap before behind) :
    Vacant (prior ++ before) behind := by
  fun_induction scan boundary cs generalizing prior before with
  | case1 boundary cs first rest taken induction =>
      rcases inside.of_addPhrase with ⟨inner, rfl, later⟩
      rw [← List.append_assoc]
      refine induction _ ?_ later
      exact (endsBlank_append_of_solid prior first.words_ne_nil first.solid_of_getLast?_words).symm
  | case2 =>
      have empty := inside.text_eq
      rw [(List.append_eq_nil_iff.mp empty).2]
      exact vacant_nil _
  | case3 boundary c rest missing induction =>
      rcases inside.of_addChar with ⟨rfl, rfl⟩ | ⟨inner, rfl, later⟩
      · rw [text_scan, List.append_nil]
        subst place
        exact vacant_of_skipped missing
      · rw [List.append_cons]
        exact induction _ (endsBlank_concat prior c).symm later

/-! ## The whole text -/

theorem line_of_formed {phrase : Phrase} (formed : phrase.Formed) : '\n' ∉ phrase.words := by
  cases phrase with
  | condition clause =>
      rcases isClause_iff.mp formed with ⟨subject, body, _, solid, _, line, rfl⟩
      have subjectLine : '\n' ∉ subject := fun member => by cases solid _ member
      simp [words, ifWord, arrow, subjectLine, line]
  | inversion => decide
  | timed timing digits =>
      have digitsLine : '\n' ∉ digits := fun member => by cases List.all_eq_true.mp formed.2 _ member
      cases timing <;> simp [words, Timing.word, unit, digitsLine]
  | expectation article typeName =>
      have nameLine : '\n' ∉ typeName := fun member => by cases List.all_eq_true.mp formed.2 _ member
      cases article <;> simp [words, Article.word, thrownWords, nameLine]

end Phrase

namespace Extraction

open Text Phrase

/-- The extraction of a text is its scan from left to right. -/
structure LeftmostIn (extraction : Extraction) (whole : List Char) : Prop where
  /-- The gaps and the phrases, in their order, are the text. -/
  lossless : extraction.text = whole
  /-- Each phrase has the parts of its form, and boundaries around it. -/
  stands : ∀ {before phrase behind}, extraction.FoundAt before phrase behind →
    before ++ words phrase ++ behind = whole ∧ phrase.Stands before behind
  /-- A phrase ends as early as possible, and on its line. -/
  shortest : ∀ {before phrase behind}, extraction.FoundAt before phrase behind →
    phrase.Shortest before behind ∧ '\n' ∉ words phrase
  /-- At no place inside a gap a phrase may start. -/
  vacant : ∀ {before rest}, extraction.InGap before rest →
    before ++ rest = whole ∧ Vacant before rest
  /-- The remainder is made of the trimmed gaps that are not empty. -/
  joined : ∃ parts, List.Forall₂ Stripped extraction.gaps parts ∧
    extraction.remainder = [' '].intercalate (parts.filter (!·.isEmpty))
  /-- No solid character of the gaps is lost in the remainder. -/
  solid : solidPart extraction.remainder = solidPart extraction.gaps.flatten

/-- Taking a text apart is a scan from left to right that loses nothing. -/
theorem leftmostIn_extract (whole : List Char) : (extract whole).LeftmostIn whole := by
  have stripped : List.Forall₂ Stripped (extract whole).gaps ((extract whole).gaps.map trim) :=
    List.forall₂_map_right_iff.mpr (List.forall₂_same.mpr fun gap _ => stripped_trim gap)
  exact {
    lossless := text_scan true whole
    stands := fun found =>
      ⟨found.text_eq.trans (text_scan true whole), (stands_of_foundAt [] rfl found).1⟩
    shortest := fun found =>
      have stands := stands_of_foundAt [] rfl found
      ⟨stands.2, line_of_formed stands.1.formed⟩
    vacant := fun inside =>
      ⟨inside.text_eq.trans (text_scan true whole), vacant_of_inGap [] rfl inside⟩
    joined := ⟨_, stripped, rfl⟩
    solid := solidPart_joined stripped }

end Extraction

end GuardedSteps
