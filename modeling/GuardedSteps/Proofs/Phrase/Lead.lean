import GuardedSteps.Phrase.Lead
import GuardedSteps.Proofs.Phrase.Leftmost

/-!
Guards in front of fixed words. A step definition finds its guards by trying where the conditions among
them may end, and the extractor ends every condition at its first arrow. What the step definition finds
are phrases with one space between two of them in any case; the extractor finds these phrases too, and
nothing else, exactly when they can be read so that no condition goes on behind an arrow.
-/

namespace GuardedSteps

namespace Text

theorem trim_eq_nil {cs : List Char} (blank : ∀ c ∈ cs, isBlank c = true) : trim cs = [] := by
  have start : trimStart cs = [] := by
    have dropped : (cs ++ []).dropWhile isBlank = [].dropWhile isBlank :=
      List.dropWhile_append_of_pos blank
    simpa [trimStart] using dropped
  rw [trim, start]
  rfl

end Text

namespace Extraction

open Text

/-! ## Gaps without words -/

theorem gaps_addPhrase (phrase : Phrase) (extraction : Extraction) :
    (extraction.addPhrase phrase).gaps = [] :: extraction.gaps := rfl

theorem exists_gaps_addChar (c : Char) (extraction : Extraction) :
    ∃ gap more, extraction.gaps = gap :: more ∧ (extraction.addChar c).gaps = (c :: gap) :: more := by
  rcases extraction with ⟨parts, tail⟩
  cases parts with
  | nil => exact ⟨tail, [], rfl, rfl⟩
  | cons part parts => exact ⟨part.1, _, rfl, rfl⟩

def BlankGaps (extraction : Extraction) : Prop :=
  ∀ gap ∈ extraction.gaps, ∀ c ∈ gap, isBlank c = true

theorem blankGaps_nil : BlankGaps ⟨[], []⟩ :=
  List.forall_mem_cons.mpr ⟨nofun, nofun⟩

theorem BlankGaps.addPhrase {extraction : Extraction} (blank : extraction.BlankGaps)
    (phrase : Phrase) : (extraction.addPhrase phrase).BlankGaps := by
  unfold BlankGaps
  rw [gaps_addPhrase]
  exact List.forall_mem_cons.mpr ⟨nofun, blank⟩

theorem BlankGaps.addChar {extraction : Extraction} (blank : extraction.BlankGaps) {c : Char}
    (own : isBlank c = true) : (extraction.addChar c).BlankGaps := by
  rcases exists_gaps_addChar c extraction with ⟨gap, more, before, after⟩
  unfold BlankGaps at blank ⊢
  rw [before, List.forall_mem_cons] at blank
  rw [after]
  exact List.forall_mem_cons.mpr ⟨List.forall_mem_cons.mpr ⟨own, blank.1⟩, blank.2⟩

theorem BlankGaps.remainder_eq {extraction : Extraction} (blank : extraction.BlankGaps) :
    extraction.remainder = [] := by
  have empty : (extraction.gaps.map trim).filter (!·.isEmpty) = [] := by
    rw [List.filter_eq_nil_iff]
    intro part member
    rcases List.mem_map.mp member with ⟨gap, inside, rfl⟩
    simp [trim_eq_nil (blank gap inside)]
  rw [remainder, empty]
  rfl

end Extraction

namespace Phrase

open Text Extraction

def joined (phrases : List Phrase) : List Char := [' '].intercalate (phrases.map words)

theorem joined_cons_cons (first second : Phrase) (more : List Phrase) :
    joined (first :: second :: more) = first.words ++ ' ' :: joined (second :: more) := by
  simp [joined, List.intercalate_cons_cons]

theorem joined_cons (first : Phrase) (more : List Phrase) :
    joined (first :: more) = first.words ++ more.flatMap fun phrase => ' ' :: phrase.words := by
  induction more generalizing first with
  | nil => simp [joined]
  | cons second more induction =>
      rw [joined_cons_cons, induction]
      simp

/-- The extractor finds phrases with one space between two of them, and nothing else. -/
def OnlyPhrases (cs : List Char) : Prop :=
  (extract cs).remainder = [] ∧ joined (extract cs).phrases = cs

/-! ## Arrows inside of conditions -/

/-- A condition goes on behind an arrow at which it could have ended. An arrow that starts with the
first character of the body is none at which a condition can end. -/
def GoesOn (phrase : Phrase) : Prop :=
  ∃ subject first left right, (∀ c ∈ subject, isBlank c = false) ∧
    phrase = .condition (subject ++ ' ' :: first :: (left ++ arrow ++ right)) ∧
    startsBlank (right ++ arrow) = true

theorem startsBlank_append_arrow (cs behind : List Char) :
    startsBlank (cs ++ arrow ++ behind) = startsBlank (cs ++ arrow) := by
  cases cs with
  | nil => rfl
  | cons c cs => rfl

theorem GoesOn.arrow_infix {phrase : Phrase} (goesOn : phrase.GoesOn) :
    ∃ clause, phrase = .condition clause ∧ arrow <:+: clause := by
  rcases goesOn with ⟨subject, first, left, right, _, rfl, _⟩
  exact ⟨_, rfl, subject ++ ' ' :: first :: left, right, by simp⟩

theorem formed_of_goesOn {subject left right : List Char} {first : Char}
    (formed : (condition (subject ++ ' ' :: first :: (left ++ arrow ++ right))).Formed)
    (solid : ∀ c ∈ subject, isBlank c = false) :
    (condition (subject ++ ' ' :: first :: left)).Formed := by
  have line : '\n' ∉ first :: left := by
    have whole := line_of_formed formed
    simp_all [words]
  have someSubject : subject ≠ [] := by
    rintro rfl
    rcases isClause_iff.mp formed with ⟨own, body, someOwn, ownSolid, _, _, same⟩
    rcases List.exists_cons_of_ne_nil someOwn with ⟨c, rest, rfl⟩
    rw [List.nil_append, List.cons_append, List.cons.injEq] at same
    have blank : isBlank ' ' = true := by decide
    cases (ownSolid c List.mem_cons_self).symm.trans (same.1 ▸ blank)
  exact isClause_iff.mpr ⟨subject, first :: left, someSubject, solid, by simp, line, rfl⟩

theorem arrow?_of_arrowless {body behind : List Char} (line : '\n' ∉ body)
    (arrowless : ∀ left right, body = left ++ arrow ++ right → startsBlank (right ++ arrow) = false)
    (ends : startsBlank behind = true) : arrow? (body ++ arrow ++ behind) = some (body, behind) := by
  induction body with
  | nil =>
      have here : (after? arrow (' ' :: '=' :: '>' :: behind)).filter startsBlank = some behind := by
        simp [arrow, after?, Option.filter, ends]
      change arrow? (' ' :: '=' :: '>' :: behind) = _
      rw [arrow?, here]
  | cons c rest induction =>
      rw [List.mem_cons, not_or] at line
      have later := induction line.2 fun left right same => arrowless (c :: left) right (by simp [same])
      have missing : (after? arrow (c :: (rest ++ arrow ++ behind))).filter startsBlank = none := by
        rw [noArrow_iff]
        intro after same
        -- The arrow here does not reach into the one behind the body.
        cases rest with
        | nil => simp [arrow] at same
        | cons second others =>
            cases others with
            | nil => simp [arrow] at same
            | cons third right =>
                simp only [arrow, List.cons_append, List.nil_append, List.cons.injEq] at same
                rcases same with ⟨rfl, rfl, rfl, rfl⟩
                have inside := arrowless [] right rfl
                rwa [← startsBlank_append_arrow right behind] at inside
      rw [List.cons_append, List.cons_append, arrow?, missing, if_neg (Ne.symm line.1), later]
      rfl

/-- A phrase is found as it stands exactly when it does not go on behind an arrow. -/
theorem settled_iff {phrase : Phrase} : phrase.Settled ↔ phrase.Formed ∧ ¬ phrase.GoesOn := by
  constructor
  · intro settled
    have formed := formed_of_settled settled
    refine ⟨formed, ?_⟩
    rintro ⟨subject, first, left, right, solid, rfl, ends⟩
    -- The condition that ends at the inner arrow may stand at the same place, and is shorter.
    have shorter : (condition (subject ++ ' ' :: first :: left)).Stands [] (right ++ arrow) :=
      ⟨formed_of_goesOn formed solid, rfl, ends⟩
    have least := shortest_of_at? (settled [] rfl) _ (right ++ arrow) (by simp [words]) shorter
    have arrowLength : arrow.length = 3 := rfl
    simp only [words, List.length_append, List.length_cons] at least
    omega
  · rintro ⟨formed, closed⟩
    cases phrase with
    | condition clause =>
        rcases isClause_iff.mp formed with ⟨subject, body, someSubject, solid, someBody, line, rfl⟩
        rcases List.exists_cons_of_ne_nil someBody with ⟨first, body, rfl⟩
        rw [List.mem_cons, not_or] at line
        have arrowed : arrow? (body ++ arrow ++ []) = some (body, []) := by
          refine arrow?_of_arrowless line.2 (fun left right same => ?_) rfl
          subst same
          by_contra ends
          exact closed ⟨subject, first, left, right, solid, rfl, by simpa using ends⟩
        exact settled_of_condition? (condition?_eq_some_iff.mpr ⟨subject, first, body ++ arrow ++ [], body,
          rfl, someSubject, solid, Ne.symm line.1, arrowed, rfl⟩)
    | inversion => exact settled_inversion
    | timed timing digits => exact settled_timed formed
    | expectation article typeName => exact settled_expectation formed

/-! ## Phrases joined by spaces -/

theorem blankGaps_extract_joined {phrases : List Phrase}
    (settled : ∀ phrase ∈ phrases, phrase.Settled) : (extract (joined phrases)).BlankGaps := by
  induction phrases with
  | nil =>
      have none : extract (joined []) = ⟨[], []⟩ := scan_nil true
      rw [none]
      exact blankGaps_nil
  | cons first more induction =>
      have own := settled first List.mem_cons_self
      have others := induction fun phrase member => settled phrase (List.mem_cons_of_mem _ member)
      cases more with
      | nil =>
          have ends : startsBlank [] = true := rfl
          have alone : extract (joined [first]) = (scan false []).addPhrase first := by
            simpa [extract, joined] using scan_settled own ends
          rw [alone, scan_nil]
          exact blankGaps_nil.addPhrase first
      | cons second more =>
          rw [joined_cons_cons, extract_settled own (by decide)]
          exact (others.addChar (by decide)).addPhrase first

theorem onlyPhrases_joined {phrases : List Phrase} (settled : ∀ phrase ∈ phrases, phrase.Settled) :
    OnlyPhrases (joined phrases) := by
  have found : (extract (joined phrases)).phrases = phrases := phrases_extract_joined settled
  exact ⟨(blankGaps_extract_joined settled).remainder_eq, congrArg joined found⟩

/-- The extractor finds nothing but phrases exactly in texts that can be read as phrases of which none
goes on behind an arrow. -/
theorem onlyPhrases_iff {cs : List Char} : OnlyPhrases cs ↔
    ∃ phrases, (∀ phrase ∈ phrases, phrase.Formed ∧ ¬ phrase.GoesOn) ∧ cs = joined phrases := by
  constructor
  · intro only
    exact ⟨_, fun phrase member => settled_iff.mp (settled_of_mem_phrases member), only.2.symm⟩
  · rintro ⟨phrases, parts, rfl⟩
    exact onlyPhrases_joined fun phrase member => settled_iff.mpr (parts phrase member)

/-! ## Where phrases may end -/

theorem exists_body_of_mem_laterEnds {cs behind : List Char} (member : behind ∈ laterEnds cs) :
    ∃ body, cs = body ++ arrow ++ behind ∧ '\n' ∉ body ∧ startsBlank behind = true := by
  fun_induction laterEnds cs with
  | case1 => cases member
  | case2 cs body first found induction =>
      have whole := arrow?_eq found
      have line := line_of_arrow? found
      rcases List.mem_cons.mp member with rfl | later
      · exact ⟨body, whole.symm, line, startsBlank_of_arrow? found⟩
      · rcases induction later with ⟨inner, rfl, innerLine, ends⟩
        refine ⟨body ++ arrow ++ inner, ?_, ?_, ends⟩
        · simp [← whole]
        · simp [line, innerLine, arrow]

theorem exists_phrase_of_mem_ends {cs behind : List Char} (member : behind ∈ ends cs) :
    ∃ phrase : Phrase, phrase.Formed ∧ cs = phrase.words ++ behind := by
  unfold ends at member
  split at member
  · cases member
  · next clause first found =>
    have whole := at?_eq found
    have formed := (formed_of_at? found).1
    rcases List.mem_cons.mp member with rfl | later
    · exact ⟨.condition clause, formed, whole.symm⟩
    · rcases exists_body_of_mem_laterEnds later with ⟨body, rfl, line, _⟩
      rcases isClause_iff.mp formed with ⟨subject, own, someSubject, solid, someOwn, ownLine, rfl⟩
      refine ⟨.condition (subject ++ ' ' :: (own ++ arrow ++ body)),
        isClause_iff.mpr ⟨subject, own ++ arrow ++ body, someSubject, solid, ?_, ?_, rfl⟩, ?_⟩
      · simp [someOwn]
      · simp [ownLine, line, arrow]
      · simp [← whole, words]
  · next phrase first _ found =>
    rw [List.mem_singleton.mp member]
    exact ⟨phrase, (formed_of_at? found).1, (at?_eq found).symm⟩

/-- What is accepted behind further phrases stands behind formed phrases, each with a space in
front. -/
theorem exists_phrases_of_skipPhrases {α : Type} {accept : List Char → Option α} {cs : List Char}
    {found : α} (accepted : skipPhrases accept cs = some found) :
    ∃ (phrases : List Phrase) (rest : List Char), (∀ phrase ∈ phrases, phrase.Formed) ∧
      cs = (phrases.flatMap fun phrase => ' ' :: phrase.words) ++ rest ∧ accept rest = some found := by
  fun_induction skipPhrases accept cs with
  | case1 cs induction =>
      simp only [Option.orElse_eq_orElse, Option.orElse_eq_or, Option.or_eq_some_iff] at accepted
      rcases accepted with further | ⟨_, here⟩
      · split at further
        · cases further
        · next behind spaced =>
          rcases List.exists_of_findSome?_eq_some further with ⟨⟨after, member⟩, _, deeper⟩
          rcases exists_phrase_of_mem_ends member with ⟨first, formed, whole⟩
          rcases induction behind spaced ⟨after, member⟩ deeper with ⟨phrases, rest, others, same, there⟩
          refine ⟨first :: phrases, rest, List.forall_mem_cons.mpr ⟨formed, others⟩, ?_, there⟩
          simp only at same
          rw [after?_eq_some_iff.mp spaced, whole, same]
          simp
      · exact ⟨[], cs, by simp, rfl, here⟩

end Phrase

namespace Lead

open Text Phrase

theorem behind?_eq_some_iff {fixed cs rest : List Char} :
    behind? fixed cs = some rest ↔ cs = fixed ++ rest ∧ '\n' ∉ rest := by
  simp [behind?, Option.filter_eq_some_iff, after?_eq_some_iff]

theorem exists_phrases_of_split? {fixed whole guards rest : List Char}
    (found : split? fixed whole = some ⟨some guards, rest⟩) :
    whole = guards ++ ' ' :: (fixed ++ rest) ∧ '\n' ∉ rest ∧
      ∃ phrases, phrases ≠ [] ∧ (∀ phrase ∈ phrases, Formed phrase) ∧ guards = joined phrases := by
  unfold split? at found
  simp only [Option.orElse_eq_orElse, Option.orElse_eq_or, Option.or_eq_some_iff] at found
  rcases found with guarded | ⟨_, bare⟩
  · rcases List.exists_of_findSome?_eq_some guarded with ⟨behind, member, skipped⟩
    rcases exists_phrase_of_mem_ends member with ⟨first, formed, front⟩
    rcases exists_phrases_of_skipPhrases skipped with ⟨phrases, spaced, others, middle, accepted⟩
    rcases Option.bind_eq_some_iff.mp accepted with ⟨stepText, space, accepted⟩
    rcases Option.bind_eq_some_iff.mp accepted with ⟨after, fixedWords, same⟩
    have text : whole = joined (first :: phrases) ++ spaced := by
      rw [front, middle, joined_cons, List.append_assoc]
    have taken : whole.take (whole.length - spaced.length) = joined (first :: phrases) := by
      simp [text]
    rw [taken] at same
    cases same
    rcases behind?_eq_some_iff.mp fixedWords with ⟨rfl, line⟩
    refine ⟨?_, line, first :: phrases, by simp, List.forall_mem_cons.mpr ⟨formed, others⟩, rfl⟩
    rw [text, after?_eq_some_iff.mp space]
    rfl
  · simp at bare

/-- Guards in front of fixed words are formed phrases with one space between two of them. The extractor
finds them again, and nothing else, exactly when they can be read as phrases of which none goes on
behind an arrow. -/
theorem onlyPhrases_iff_of_split? {fixed whole guards rest : List Char}
    (found : split? fixed whole = some ⟨some guards, rest⟩) :
    (whole = guards ++ ' ' :: (fixed ++ rest) ∧ '\n' ∉ rest) ∧
    (∃ phrases, phrases ≠ [] ∧ (∀ phrase ∈ phrases, Formed phrase) ∧ guards = joined phrases) ∧
    (OnlyPhrases guards ↔ ∃ phrases, (∀ phrase ∈ phrases, Formed phrase ∧ ¬ phrase.GoesOn) ∧
      guards = joined phrases) := by
  rcases exists_phrases_of_split? found with ⟨whole, line, phrases⟩
  exact ⟨⟨whole, line⟩, phrases, onlyPhrases_iff⟩

theorem onlyPhrases_twoGuards :
    split? "we call it".toList "within 50ms if a b => we call it twice".toList =
      some ⟨some "within 50ms if a b =>".toList, " twice".toList⟩ ∧
    OnlyPhrases "within 50ms if a b =>".toList := by
  have found : split? "we call it".toList "within 50ms if a b => we call it twice".toList =
      some ⟨some "within 50ms if a b =>".toList, " twice".toList⟩ := by decide +kernel
  refine ⟨found, (onlyPhrases_iff_of_split? found).2.2.mpr ⟨[.timed .within "50".toList,
    .condition "a b".toList], ?_, by decide +kernel⟩⟩
  have timed : ¬ (Phrase.timed .within "50".toList).GoesOn := by
    intro goesOn
    rcases goesOn.arrow_infix with ⟨_, same, _⟩
    cases same
  have conditional : ¬ (Phrase.condition "a b".toList).GoesOn := by
    intro goesOn
    rcases goesOn.arrow_infix with ⟨_, same, inside⟩
    cases same
    revert inside
    decide
  simp only [List.forall_mem_cons, List.not_mem_nil, false_implies, implies_true, and_true]
  exact ⟨⟨by simp [Formed]; decide, timed⟩, by simp [Formed]; decide, conditional⟩

/-- A condition that goes on behind an arrow is a guard of a step, and the extractor finds more than
phrases in it. -/
theorem exists_moreThanPhrases : ∃ fixed whole guards rest,
    split? fixed whole = some ⟨some guards, rest⟩ ∧ ¬ OnlyPhrases guards := by
  refine ⟨"lit".toList, "if a b => x => lit".toList, "if a b => x =>".toList, [], by decide +kernel, ?_⟩
  rintro ⟨blank, _⟩
  revert blank
  decide +kernel

end Lead

end GuardedSteps
