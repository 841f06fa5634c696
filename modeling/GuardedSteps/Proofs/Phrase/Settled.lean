import GuardedSteps.Proofs.Phrase.Form

/-!
Settled phrases. A phrase is settled when the scanner finds it wherever its words stand at a boundary
and end at one, whatever follows. Every phrase that has been found is settled, and so is every formed
phrase but a condition with an arrow inside its clause. Settled phrases can be joined by spaces: the
scanner finds exactly these phrases again.
-/

namespace GuardedSteps

namespace Phrase

open Text

/-- The phrase is found in front of all text that goes on at a boundary. -/
def Settled (phrase : Phrase) : Prop :=
  ∀ behind, startsBlank behind = true → at? (phrase.words ++ behind) = some (phrase, behind)

/-! ## Each form -/

theorem noArrow_iff {cs : List Char} : (after? arrow cs).filter startsBlank = none ↔
    ∀ behind, cs = arrow ++ behind → startsBlank behind = false := by
  simp [Option.filter_eq_none_iff, after?_eq_some_iff]

/-- Whether an arrow stands here and ends at a boundary shows in four characters, which do not reach
beyond the arrow that comes later. -/
theorem noArrow_congr {c : Char} {body first : List Char}
    (missing : (after? arrow (c :: (body ++ arrow ++ first))).filter startsBlank = none)
    (second : List Char) :
    (after? arrow (c :: (body ++ arrow ++ second))).filter startsBlank = none := by
  rw [noArrow_iff] at missing ⊢
  intro behind equal
  match body with
  | [] => simp [arrow] at equal
  | [_] => simp [arrow] at equal
  | [_, _] =>
      simp only [arrow, List.cons_append, List.nil_append, List.cons.injEq] at equal
      rcases equal with ⟨rfl, rfl, rfl, _⟩
      have blank := missing (arrow ++ first) rfl
      simp [arrow] at blank
  | _ :: _ :: d :: more =>
      simp only [arrow, List.cons_append, List.nil_append, List.cons.injEq] at equal
      rcases equal with ⟨rfl, rfl, rfl, rfl⟩
      exact missing (d :: (more ++ arrow ++ first)) rfl

theorem arrow?_append {cs body behind other : List Char} (found : arrow? cs = some (body, behind))
    (ends : startsBlank other = true) : arrow? (body ++ arrow ++ other) = some (body, other) := by
  fun_induction arrow? cs generalizing body with
  | case1 => cases found
  | case2 =>
      cases found
      have here : (after? arrow (' ' :: '=' :: '>' :: other)).filter startsBlank = some other := by
        simp [arrow, after?, Option.filter, ends]
      change arrow? (' ' :: '=' :: '>' :: other) = _
      rw [arrow?, here]
  | case3 => cases found
  | case4 c rest missing line induction =>
      rcases Option.map_eq_some_iff.mp found with ⟨⟨inner, _⟩, deeper, equal⟩
      cases equal
      rw [← arrow?_eq deeper] at missing
      have later := induction deeper
      rw [List.cons_append, List.cons_append, arrow?, noArrow_congr missing other, if_neg line, later]
      rfl

theorem settled_of_condition? {cs behind : List Char} {phrase : Phrase}
    (found : condition? cs = some (phrase, behind)) : Settled phrase := by
  rcases
    condition?_eq_some_iff.mp found with
    ⟨subject, first, rest, body, _, someSubject, solid, line, arrowed, rfl⟩
  intro other ends
  have again : condition? (words (.condition (subject ++ ' ' :: first :: body)) ++ other) =
      some (.condition (subject ++ ' ' :: first :: body), other) :=
    condition?_eq_some_iff.mpr ⟨subject, first, body ++ arrow ++ other, body, by simp [words],
      someSubject, solid, line, arrow?_append arrowed ends, rfl⟩
  simp [at?, again]

theorem settled_inversion : Settled .inversion := by
  intro behind ends
  simp [at?, condition?, inversion?, words, inversionWords, ifWord, after?, ends]

theorem settled_timed {timing : Timing} {digits : List Char} (formed : (timed timing digits).Formed) :
    Settled (.timed timing digits) := by
  intro behind ends
  rcases formed with ⟨someDigit, decimal⟩
  have all : ∀ c ∈ digits, isDecimal c = true := List.all_eq_true.mp decimal
  have unitStarts : isDecimal 'm' = false := by decide
  have digitsTaken : (digits ++ 'm' :: 's' :: behind).takeWhile isDecimal = digits := by
    simp [List.takeWhile_append_of_pos all, unitStarts]
  have digitsDropped : (digits ++ 'm' :: 's' :: behind).dropWhile isDecimal = 'm' :: 's' :: behind := by
    simp [List.dropWhile_append_of_pos all, unitStarts]
  have closed : after? unit ('m' :: 's' :: behind) = some behind := after?_append unit behind
  have front : (timed timing digits).words ++ behind =
      timing.word ++ (digits ++ 'm' :: 's' :: behind) := by simp [words, unit]
  have read : timed? timing ((timed timing digits).words ++ behind) =
      some (timed timing digits, behind) := by
    simp only [timed?, front, after?_append, Option.bind_eq_bind, Option.bind_some, digitsTaken,
      digitsDropped, closed]
    exact if_pos ⟨someDigit, ends⟩
  have unread (other : Timing) (distinct : other ≠ timing) :
      timed? other ((timed timing digits).words ++ behind) = none := by
    rw [front]
    cases other <;> cases timing <;> simp [timed?, Timing.word, after?] at distinct ⊢
  have unconditional : condition? ((timed timing digits).words ++ behind) = none := by
    rw [front]
    cases timing <;> simp [condition?, ifWord, Timing.word, after?]
  have upright : inversion? ((timed timing digits).words ++ behind) = none := by
    rw [front]
    cases timing <;> simp [inversion?, inversionWords, Timing.word, after?]
  cases timing <;> simp [at?, unconditional, upright, unread, read]

theorem settled_expectation {article : Article} {typeName : List Char}
    (formed : (expectation article typeName).Formed) : Settled (.expectation article typeName) := by
  intro behind ends
  rcases formed with ⟨someName, solid⟩
  have solid : ∀ c ∈ typeName, isBlank c = false := by simpa using solid
  have spanned : wordSpan (typeName ++ (thrownWords ++ behind)) = (typeName, thrownWords ++ behind) :=
    wordSpan_solid solid (startsBlank_space _)
  cases article <;>
    simp [at?, condition?, inversion?, timed?, expectation?, words, Article.word, Timing.word, ifWord,
      inversionWords, after?, spanned, someName, ends]

theorem settled_of_at? {cs behind : List Char} {phrase : Phrase}
    (found : at? cs = some (phrase, behind)) : Settled phrase := by
  have formed := (formed_of_at? found).1
  cases phrase with
  | condition clause =>
      simp only [at?, Option.orElse_eq_orElse, Option.orElse_eq_or, Option.or_eq_some_iff] at found
      rcases found with found | ⟨_, found⟩
      · exact settled_of_condition? found
      · simp [inversion?, timed?, expectation?, Option.bind_eq_some_iff] at found
  | inversion => exact settled_inversion
  | timed timing digits => exact settled_timed formed
  | expectation article typeName => exact settled_expectation formed

theorem formed_of_settled {phrase : Phrase} (settled : phrase.Settled) : phrase.Formed :=
  (formed_of_at? (settled [] rfl)).1

/-! ## Settled phrases in a text -/

theorem settled_of_mem_phrases {text : List Char} {phrase : Phrase}
    (member : phrase ∈ (extract text).phrases) : phrase.Settled := by
  rcases found_of_mem_phrases member with ⟨_, _, found⟩
  exact settled_of_at? found

theorem scan_nil (boundary : Bool) : scan boundary [] = ⟨[], []⟩ := by
  rw [scan]
  split
  · next phrase behind found =>
    split at found
    · cases length_of_at? found
    · cases found
  · rfl

theorem scan_inside (c : Char) (rest : List Char) :
    scan false (c :: rest) = (scan (isBlank c) rest).addChar c := by
  rw [scan]
  rfl

/-- A settled phrase at a boundary is found there. -/
theorem scan_settled {phrase : Phrase} (settled : phrase.Settled) {behind : List Char}
    (ends : startsBlank behind = true) :
    scan true (phrase.words ++ behind) = (scan false behind).addPhrase phrase := by
  have here := settled behind ends
  rw [scan]
  split
  · next other after found =>
    cases here.symm.trans found
    rfl
  · next missing =>
    cases here.symm.trans missing

/-- A settled phrase and a blank are taken off in front, and the rest is taken apart on its own. -/
theorem extract_settled {phrase : Phrase} (settled : phrase.Settled) {c : Char} (blank : isBlank c = true)
    (rest : List Char) :
    extract (phrase.words ++ c :: rest) = ((extract rest).addChar c).addPhrase phrase := by
  have ends : startsBlank (c :: rest) = true := blank
  rw [extract, scan_settled settled ends, scan_inside, blank]
  rfl

/-- Settled phrases that are joined by spaces are found again, and no others. -/
theorem phrases_extract_joined {phrases : List Phrase} (settled : ∀ phrase ∈ phrases, phrase.Settled) :
    (extract ([' '].intercalate (phrases.map words))).phrases = phrases := by
  induction phrases with
  | nil => simp [extract, scan_nil, Extraction.phrases]
  | cons first rest induction =>
      have own := settled first (by simp)
      have others : ∀ phrase ∈ rest, phrase.Settled := fun phrase member =>
        settled phrase (List.mem_cons_of_mem _ member)
      cases rest with
      | nil =>
          have ends : startsBlank [] = true := rfl
          have alone := scan_settled own ends
          rw [List.append_nil] at alone
          simp [extract, alone, scan_nil, Extraction.phrases, Extraction.addPhrase]
      | cons second more =>
          have joined : [' '].intercalate ((first :: second :: more).map words) =
              first.words ++ ' ' :: [' '].intercalate ((second :: more).map words) := by
            simp [List.intercalate_cons_cons]
          rw [joined, extract_settled own (by decide), Extraction.phrases_addPhrase,
            Extraction.phrases_addChar, induction others]

end Phrase

end GuardedSteps
