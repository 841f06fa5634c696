import GuardedSteps.Proofs.Guard.Phrases
import GuardedSteps.Proofs.Phrase.Leftmost

/-!
Plain step text. What the extractor leaves of a text are parts, each of which is plain: no phrase stands
in it. The remainder joins these parts by spaces, and a phrase that stands in it reaches across a space
at which two parts are joined. Where no phrase does, the remainder is plain as well.
-/

namespace GuardedSteps

namespace Text

theorem startsBlank_append_of_ne_nil {cs : List Char} (some : cs ≠ []) (rest : List Char) :
    startsBlank (cs ++ rest) = startsBlank cs := by
  rcases List.exists_cons_of_ne_nil some with ⟨c, others, rfl⟩
  rfl

theorem endsBlank_append_of_ne_nil {cs : List Char} (some : cs ≠ []) (before : List Char) :
    endsBlank (before ++ cs) = endsBlank cs := by
  rw [endsBlank, endsBlank, List.reverse_append]
  exact startsBlank_append_of_ne_nil (by simpa using some) _

theorem startsBlank_append_of_solid {cs : List Char} (rest : List Char) (some : cs ≠ [])
    (solid : ∀ c ∈ cs.head?, isBlank c = false) : startsBlank (cs ++ rest) = false := by
  rcases List.exists_cons_of_ne_nil some with ⟨c, others, rfl⟩
  exact solid c rfl

theorem startsBlank_of_blank {cs : List Char} (blank : ∀ c ∈ cs, isBlank c = true) :
    startsBlank cs = true := by
  cases cs with
  | nil => rfl
  | cons c cs => exact blank c List.mem_cons_self

theorem endsBlank_of_blank {cs : List Char} (blank : ∀ c ∈ cs, isBlank c = true) :
    endsBlank cs = true :=
  startsBlank_of_blank (by simpa using blank)

/-! ## Texts joined by spaces -/

theorem intercalate_append {front back : List (List Char)} (someFront : front ≠ [])
    (someBack : back ≠ []) : [' '].intercalate (front ++ back) =
      [' '].intercalate front ++ ' ' :: [' '].intercalate back := by
  induction front with
  | nil => exact absurd rfl someFront
  | cons first front induction =>
      cases front with
      | nil =>
          rcases List.exists_cons_of_ne_nil someBack with ⟨second, back, rfl⟩
          simp [List.intercalate_cons_cons]
      | cons second front =>
          have later := induction (by simp)
          rw [List.cons_append] at later
          rw [List.cons_append, List.cons_append, List.intercalate_cons_cons,
            List.intercalate_cons_cons, later]
          simp

theorem inside_or_across {first rest before piece behind : List Char} (some : piece ≠ [])
    (whole : first ++ ' ' :: rest = before ++ piece ++ behind) :
    (∃ right, first = before ++ piece ++ right ∧ behind = right ++ ' ' :: rest) ∨
    (∃ left right, piece = left ++ ' ' :: right ∧ first = before ++ left ∧ rest = right ++ behind) ∨
    ∃ earlier, before = first ++ ' ' :: earlier ∧ rest = earlier ++ piece ++ behind := by
  rw [List.append_assoc] at whole
  rcases List.append_eq_append_iff.mp whole with ⟨beyond, rfl, same⟩ | ⟨left, rfl, same⟩
  · cases beyond with
    | nil =>
        rcases List.exists_cons_of_ne_nil some with ⟨c, others, rfl⟩
        rw [List.nil_append, List.cons_append, List.cons.injEq] at same
        rcases same with ⟨rfl, rfl⟩
        exact .inr (.inl ⟨[], others, rfl, by simp, rfl⟩)
    | cons c earlier =>
        rw [List.cons_append, List.cons.injEq] at same
        rcases same with ⟨rfl, rfl⟩
        exact .inr (.inr ⟨earlier, rfl, by simp⟩)
  · rcases List.append_eq_append_iff.mp same with ⟨right, rfl, rfl⟩ | ⟨beyond, rfl, after⟩
    · exact .inl ⟨right, by simp, rfl⟩
    · cases beyond with
      | nil => exact .inl ⟨[], by simp, after.symm⟩
      | cons c right =>
          rw [List.cons_append, List.cons.injEq] at after
          rcases after with ⟨rfl, rfl⟩
          exact .inr (.inl ⟨left, right, rfl, rfl, rfl⟩)

/-- A piece of joined texts lies in one of them, or reaches across a space between two of them. -/
theorem inside_part_or_across {parts : List (List Char)} {before piece behind : List Char}
    (some : piece ≠ []) (whole : [' '].intercalate parts = before ++ piece ++ behind) :
    (∃ part ∈ parts, ∃ earlier left right later, part = left ++ piece ++ right ∧
      before = earlier ++ left ∧ behind = right ++ later) ∨
    ∃ front back left right, parts = front ++ back ∧ front ≠ [] ∧ back ≠ [] ∧
      piece = left ++ ' ' :: right ∧ [' '].intercalate front = before ++ left ∧
      [' '].intercalate back = right ++ behind := by
  induction parts generalizing before with
  | nil => simp [some] at whole
  | cons first rest induction =>
      by_cases last : rest = []
      · subst last
        rw [List.intercalate_singleton] at whole
        exact .inl ⟨first, List.mem_cons_self, [], before, behind, [], whole, rfl, by simp⟩
      · have joined (more : List (List Char)) (someMore : more ≠ []) :
            [' '].intercalate (first :: more) = first ++ ' ' :: [' '].intercalate more := by
          simpa using intercalate_append (List.cons_ne_nil first []) someMore
        rw [joined rest last] at whole
        rcases inside_or_across some whole with
          ⟨right, inside, passed⟩ | ⟨left, right, across, own, others⟩ | ⟨earlier, passed, others⟩
        · exact .inl ⟨first, List.mem_cons_self, [], before, right, _, inside, rfl, passed⟩
        · exact .inr ⟨[first], rest, left, right, rfl, by simp, last, across, by simpa using own, others⟩
        · rcases induction others with
            ⟨part, member, skipped, left, right, later, inside, same, behindPart⟩ |
            ⟨front, back, left, right, split, someFront, someBack, across, own, behindSpace⟩
          · exact .inl ⟨part, List.mem_cons_of_mem _ member, first ++ ' ' :: skipped, left, right, later,
              inside, by simp [passed, same], behindPart⟩
          · exact .inr ⟨first :: front, back, left, right, by simp [split], by simp, someBack, across,
              by simp [joined front someFront, own, passed], behindSpace⟩

end Text

namespace Extraction

open Text Phrase

/-! ## The parts of the remainder -/

def parts (extraction : Extraction) : List (List Char) :=
  (extraction.gaps.map trim).filter (!·.isEmpty)

theorem remainder_eq (extraction : Extraction) :
    extraction.remainder = [' '].intercalate extraction.parts := rfl

theorem exists_gap_of_mem_parts {extraction : Extraction} {part : List Char}
    (member : part ∈ extraction.parts) : part ≠ [] ∧ ∃ gap ∈ extraction.gaps, Stripped gap part := by
  rcases List.mem_filter.mp member with ⟨trimmed, some⟩
  rcases List.mem_map.mp trimmed with ⟨gap, inside, rfl⟩
  exact ⟨by simpa using some, gap, inside, stripped_trim gap⟩

theorem trim_remainder (extraction : Extraction) : trim extraction.remainder = extraction.remainder := by
  have solid : ∀ part ∈ extraction.parts, part ≠ [] ∧ (∀ c ∈ part.head?, isBlank c = false) ∧
      ∀ c ∈ part.getLast?, isBlank c = false := by
    intro part member
    rcases exists_gap_of_mem_parts member with ⟨some, gap, _, stripped⟩
    exact ⟨some, stripped.front, stripped.back⟩
  rw [remainder_eq]
  apply trim_eq_self
  · cases whole : extraction.parts with
    | nil => simp
    | cons first rest =>
        rw [whole] at solid
        have own := solid first List.mem_cons_self
        rcases List.exists_cons_of_ne_nil own.1 with ⟨c, others, rfl⟩
        cases rest with
        | nil => simpa using own.2.1
        | cons second more => simpa [List.intercalate_cons_cons] using own.2.1
  · rcases List.eq_nil_or_concat extraction.parts with whole | ⟨front, last, whole⟩
    · simp [whole]
    · rw [List.concat_eq_append] at whole
      rw [whole] at solid ⊢
      have own := solid last (by simp)
      by_cases only : front = []
      · simpa [only] using own.2.2
      · rcases List.eq_nil_or_concat last with empty | ⟨others, c, rfl⟩
        · exact absurd empty own.1
        · rw [intercalate_append only (by simp), List.intercalate_singleton, List.concat_eq_append,
            ← List.cons_append, ← List.append_assoc, List.getLast?_concat]
          simpa using own.2.2

theorem starts_behind {whole : List Char} {front more : List (List Char × Phrase)} {tail : List Char}
    (split : extract whole = ⟨front ++ more, tail⟩) :
    front = [] ∨ startsBlank (text ⟨more, tail⟩) = true := by
  rcases List.eq_nil_or_concat front with empty | ⟨earlier, ⟨gap, phrase⟩, rfl⟩
  · exact .inl empty
  · have found : (extract whole).FoundAt (text ⟨earlier, gap⟩) phrase (text ⟨more, tail⟩) :=
      ⟨earlier, gap, more, by simp [split], rfl, by simp [split]⟩
    exact .inr (stands_of_foundAt [] rfl found).1.ends

end Extraction

namespace Phrase

open Text Extraction

/-! ## Plain text -/

/-- The extractor finds no phrase in a text, and leaves all of it. -/
def Plain (cs : List Char) : Prop := (extract cs).phrases = [] ∧ (extract cs).remainder = cs

theorem extract_eq_of_phrases_eq_nil {cs : List Char} (none : (extract cs).phrases = []) :
    extract cs = ⟨[], cs⟩ := by
  have whole : (extract cs).text = cs := text_scan true cs
  rcases extracted : extract cs with ⟨found, tail⟩
  rw [extracted] at none whole
  have empty : found = [] := by simpa [phrases] using none
  subst empty
  have same : tail = cs := by simpa [text] using whole
  rw [same]

theorem phrases_eq_nil_iff {cs : List Char} : (extract cs).phrases = [] ↔
    ∀ (phrase : Phrase) before behind, cs = before ++ phrase.words ++ behind →
      ¬ phrase.Stands before behind := by
  constructor
  · intro none phrase before behind split
    have inside : (extract cs).InGap before (phrase.words ++ behind) := by
      rw [extract_eq_of_phrases_eq_nil none]
      exact .inr ⟨before, by simpa using split, rfl⟩
    exact vacant_of_inGap [] rfl inside phrase behind rfl
  · intro vacant
    by_contra some
    rcases extracted : extract cs with ⟨found, tail⟩
    cases found with
    | nil => simp [extracted, phrases] at some
    | cons part more =>
        rcases part with ⟨gap, phrase⟩
        have here : (extract cs).FoundAt (text ⟨[], gap⟩) phrase (text ⟨more, tail⟩) :=
          ⟨[], gap, more, by simp [extracted], rfl, by simp [extracted]⟩
        have same : (text ⟨[], gap⟩) ++ phrase.words ++ (text ⟨more, tail⟩) = cs :=
          here.text_eq.trans (text_scan true cs)
        exact vacant phrase _ _ same.symm (stands_of_foundAt [] rfl here).1

theorem Stands.within {phrase : Phrase} {earlier left right later : List Char}
    (stands : phrase.Stands (earlier ++ left) (right ++ later)) : phrase.Stands left right where
  formed := stands.formed
  starts := by
    by_cases first : left = []
    · rw [first]
      rfl
    · rw [← endsBlank_append_of_ne_nil first earlier]
      exact stands.starts
  ends := by
    by_cases last : right = []
    · rw [last]
      rfl
    · rw [← startsBlank_append_of_ne_nil last later]
      exact stands.ends

theorem plain_iff {cs : List Char} (trimmed : trim cs = cs) : Plain cs ↔
    ∀ (phrase : Phrase) before behind, cs = before ++ phrase.words ++ behind →
      ¬ phrase.Stands before behind := by
  rw [← phrases_eq_nil_iff]
  refine ⟨And.left, fun none => ⟨none, ?_⟩⟩
  rw [extract_eq_of_phrases_eq_nil none]
  by_cases empty : cs = []
  · subst empty
    rfl
  · simp [remainder, gaps, trimmed, empty]

/-- A text has no phrase exactly when its chain is the guard that runs the step itself. -/
theorem parse_eq_always_iff {cs : List Char} (resolve : Resolver) :
    Guard.parse resolve cs = .ok [Guard.always] ↔ (extract cs).phrases = [] := by
  rw [Guard.parse_eq_ok_iff]
  constructor
  · rintro ⟨guards, denoted, whole⟩
    have empty : guards = [] := by simpa using whole
    subst empty
    exact List.forall₂_nil_right_iff.mp denoted
  · intro none
    exact ⟨[], by rw [none]; exact .nil, rfl⟩

end Phrase

namespace Extraction

open Text Phrase

/-! ## What stands in the remainder -/

theorem exists_around_of_mem_gaps {whole gap : List Char} (inside : gap ∈ (extract whole).gaps) :
    ∃ earlier later,
      (∀ left right, right ≠ [] → gap = left ++ right → Vacant (earlier ++ left) (right ++ later)) ∧
      (earlier = [] ∨ startsBlank (gap ++ later) = true) ∧
      (later = [] ∨ endsBlank (earlier ++ gap) = true) := by
  rcases extracted : extract whole with ⟨found, tail⟩
  rw [extracted] at inside
  rcases List.mem_append.mp inside with inFound | last
  · rcases List.mem_map.mp inFound with ⟨⟨own, phrase⟩, member, rfl⟩
    rcases List.append_of_mem member with ⟨front, more, rfl⟩
    have here : (extract whole).FoundAt (text ⟨front, own⟩) phrase (text ⟨more, tail⟩) :=
      ⟨front, own, more, by rw [extracted], rfl, by rw [extracted]⟩
    refine ⟨text ⟨front, []⟩, phrase.words ++ text ⟨more, tail⟩, ?_, ?_, .inr ?_⟩
    · rintro left right some rfl
      rcases List.exists_cons_of_ne_nil some with ⟨c, others, rfl⟩
      have place : (extract whole).InGap (text ⟨front, []⟩ ++ left)
          (c :: others ++ (phrase.words ++ text ⟨more, tail⟩)) := by
        rw [extracted]
        exact .inl ⟨front, left, c, others, phrase, more, rfl, by simp [text], by simp [text]⟩
      exact vacant_of_inGap [] rfl place
    · rcases starts_behind extracted with empty | starts
      · exact .inl (by simp [empty, text])
      · exact .inr (by simpa [text] using starts)
    · simpa [text] using (stands_of_foundAt [] rfl here).1.starts
  · rw [List.mem_singleton] at last
    subst last
    refine ⟨text ⟨found, []⟩, [], ?_, ?_, .inl rfl⟩
    · rintro left right _ rfl
      have place : (extract whole).InGap (text ⟨found, []⟩ ++ left) (right ++ []) := by
        rw [extracted]
        exact .inr ⟨left, by simp, by simp [text]⟩
      exact vacant_of_inGap [] rfl place
    · have split : extract whole = ⟨found ++ [], gap⟩ := by simpa using extracted
      rcases starts_behind split with empty | starts
      · exact .inl (by simp [empty, text])
      · exact .inr (by simpa [text] using starts)

/-- In a part of the remainder no phrase may stand, as none may in its gap. -/
theorem not_stands_in_part {whole part : List Char} (member : part ∈ (extract whole).parts)
    {phrase : Phrase} {before behind : List Char} (split : part = before ++ phrase.words ++ behind) :
    ¬ phrase.Stands before behind := by
  intro stands
  rcases exists_gap_of_mem_parts member with ⟨some, gap, inside, stripped⟩
  rcases stripped.around with ⟨left, right, around, leftBlank, rightBlank⟩
  rcases exists_around_of_mem_gaps inside with ⟨earlier, later, vacant, meets, met⟩
  have starts : endsBlank (earlier ++ (left ++ before)) = true := by
    by_cases first : before = []
    · by_cases alone : left = []
      · subst first alone
        have solid := startsBlank_append_of_solid (right ++ later) some stripped.front
        rcases meets with rfl | meets
        · rfl
        · rw [around] at meets
          simp_all
      · rw [first, List.append_nil, endsBlank_append_of_ne_nil alone]
        exact endsBlank_of_blank leftBlank
    · rw [← List.append_assoc, endsBlank_append_of_ne_nil first]
      exact stands.starts
  have ends : startsBlank (behind ++ right ++ later) = true := by
    by_cases last : behind = []
    · by_cases alone : right = []
      · subst last alone
        have solid := endsBlank_append_of_solid (earlier ++ left) some stripped.back
        rcases met with rfl | met
        · rfl
        · rw [around] at met
          simp_all
      · rw [last, List.nil_append, startsBlank_append_of_ne_nil alone]
        exact startsBlank_of_blank rightBlank
    · rw [List.append_assoc, startsBlank_append_of_ne_nil last]
      exact stands.ends
  refine vacant (left ++ before) (phrase.words ++ behind ++ right) (by simp [phrase.words_ne_nil])
    (by simp [around, split]) phrase (behind ++ right ++ later) (by simp) ⟨stands.formed, starts, ends⟩

theorem plain_part {whole part : List Char} (member : part ∈ (extract whole).parts) : Plain part := by
  rcases exists_gap_of_mem_parts member with ⟨_, gap, _, stripped⟩
  rw [plain_iff (trim_eq_self stripped.front stripped.back)]
  intro phrase before behind split
  exact not_stands_in_part member split

/-- A phrase stands in the remainder across a space at which two of its parts are joined. -/
def Fuses (extraction : Extraction) (phrase : Phrase) : Prop :=
  ∃ front back before left right behind, extraction.parts = front ++ back ∧ front ≠ [] ∧ back ≠ [] ∧
    phrase.words = left ++ ' ' :: right ∧ [' '].intercalate front = before ++ left ∧
    [' '].intercalate back = right ++ behind ∧ phrase.Stands before behind

theorem Fuses.two_parts {extraction : Extraction} {phrase : Phrase} (fuses : extraction.Fuses phrase) :
    2 ≤ extraction.parts.length := by
  rcases fuses with ⟨front, back, _, _, _, _, whole, someFront, someBack, _⟩
  have first := List.length_pos_iff.mpr someFront
  have second := List.length_pos_iff.mpr someBack
  rw [whole, List.length_append]
  omega

theorem Fuses.exists_stands {extraction : Extraction} {phrase : Phrase}
    (fuses : extraction.Fuses phrase) : ∃ before behind,
      extraction.remainder = before ++ phrase.words ++ behind ∧ phrase.Stands before behind := by
  rcases fuses with
    ⟨front, back, before, left, right, behind, whole, someFront, someBack, words, first, second, stands⟩
  refine ⟨before, behind, ?_, stands⟩
  rw [remainder_eq, whole, intercalate_append someFront someBack, first, second, words]
  simp

/-- Every phrase that stands in the remainder reaches across a join, as it may not stand in a part. -/
theorem fuses_of_stands {whole before behind : List Char} {phrase : Phrase}
    (split : (extract whole).remainder = before ++ phrase.words ++ behind)
    (stands : phrase.Stands before behind) : (extract whole).Fuses phrase := by
  rw [remainder_eq] at split
  rcases inside_part_or_across phrase.words_ne_nil split with
    ⟨part, member, earlier, left, right, later, inside, rfl, rfl⟩ |
    ⟨front, back, left, right, parts, someFront, someBack, words, first, second⟩
  · exact absurd stands.within (not_stands_in_part member inside)
  · exact ⟨front, back, before, left, right, behind, parts, someFront, someBack, words, first, second,
      stands⟩

theorem plain_remainder_iff (whole : List Char) :
    Plain (extract whole).remainder ↔ ∀ phrase, ¬ (extract whole).Fuses phrase := by
  rw [plain_iff (trim_remainder _)]
  constructor
  · intro vacant phrase fuses
    rcases fuses.exists_stands with ⟨before, behind, split, stands⟩
    exact vacant phrase before behind split stands
  · intro apart phrase before behind split stands
    exact apart phrase (fuses_of_stands split stands)

/-- Each part of the remainder is plain step text. The remainder itself is, and its chain is the guard
that runs the step, exactly when no phrase comes about across a join of two parts; so it is when all of
it was in one piece. -/
theorem plain_parts_of_remainder (resolve : Resolver) (whole : List Char) :
    (∀ part ∈ (extract whole).parts, Plain part) ∧
    (Plain (extract whole).remainder ↔ ∀ phrase, ¬ (extract whole).Fuses phrase) ∧
    (Guard.parse resolve (extract whole).remainder = .ok [Guard.always] ↔
      ∀ phrase, ¬ (extract whole).Fuses phrase) ∧
    ((extract whole).parts.length ≤ 1 → Plain (extract whole).remainder) := by
  have plain := plain_remainder_iff whole
  refine ⟨fun part => plain_part, plain, ?_, ?_⟩
  · rw [parse_eq_always_iff, ← plain]
    exact ⟨fun none => (plain_iff (trim_remainder _)).mpr (phrases_eq_nil_iff.mp none), And.left⟩
  · intro single
    refine plain.mpr fun phrase fuses => ?_
    have double := fuses.two_parts
    omega

/-- What stood around a phrase may be a phrase itself. -/
theorem exists_phrase_in_remainder :
    (extract "after within 5ms 7ms".toList).remainder = "after 7ms".toList ∧
    (extract "after 7ms".toList).phrases = [.timed .after "7".toList] ∧
    ¬ ∀ whole, Plain (extract whole).remainder := by
  have left : (extract "after within 5ms 7ms".toList).remainder = "after 7ms".toList := by
    decide +kernel
  have found : (extract "after 7ms".toList).phrases = [.timed .after "7".toList] := by
    decide +kernel
  refine ⟨left, found, fun plain => ?_⟩
  have none := (plain "after within 5ms 7ms".toList).1
  rw [left, found] at none
  cases none

end Extraction

end GuardedSteps
