import GuardedSteps.Phrase.Basic
import GuardedSteps.Text.Digit
import GuardedSteps.Text.Affix

/-!
Finding phrases in a text. A phrase starts at a boundary, which is the start of the text or a place
behind a blank character, and ends at one. The scan goes from left to right and loses nothing: the
phrases it finds and the gaps between them make up the text.
-/

namespace GuardedSteps

namespace Phrase

open Text

/-! ## One phrase at the front -/

/-- The text before the first arrow that ends at a boundary, and what follows the arrow. A condition
stays on its line. -/
def arrow? : List Char → Option (List Char × List Char)
  | [] => none
  | c :: rest =>
    match (after? arrow (c :: rest)).filter startsBlank with
    | some behind => some ([], behind)
    | none =>
      if c = '\n' then none
      else (arrow? rest).map fun found => (c :: found.1, found.2)

/-- The subject of a condition is one word, and the body has at least one character. -/
def condition? (cs : List Char) : Option (Phrase × List Char) := do
  let (subject, spaced) := wordSpan (← after? ifWord cs)
  match subject, spaced with
  | _ :: _, ' ' :: first :: rest =>
    if first = '\n' then none
    else
      let (body, behind) ← arrow? rest
      some (.condition (subject ++ ' ' :: first :: body), behind)
  | _, _ => none

def inversion? (cs : List Char) : Option (Phrase × List Char) := do
  let behind ← after? inversionWords cs
  if startsBlank behind then some (.inversion, behind) else none

def timed? (timing : Timing) (cs : List Char) : Option (Phrase × List Char) := do
  let rest ← after? timing.word cs
  let digits := rest.takeWhile isDecimal
  let behind ← after? unit (rest.dropWhile isDecimal)
  if digits ≠ [] ∧ startsBlank behind then some (.timed timing digits, behind) else none

def expectation? (article : Article) (cs : List Char) : Option (Phrase × List Char) := do
  let (typeName, rest) := wordSpan (← after? article.word cs)
  let behind ← after? thrownWords rest
  if typeName ≠ [] ∧ startsBlank behind then some (.expectation article typeName, behind) else none

/-- The phrase at the front, which ends at a boundary, and what follows it. No two forms start
alike, so their order is of no importance. -/
def at? (cs : List Char) : Option (Phrase × List Char) :=
  condition? cs <|> inversion? cs <|> timed? .after cs <|> timed? .within cs <|>
    timed? .during cs <|> expectation? .a cs <|> expectation? .an cs

/-! ## Nothing is lost -/

theorem arrow?_eq {cs body behind : List Char} (found : arrow? cs = some (body, behind)) :
    body ++ arrow ++ behind = cs := by
  fun_induction arrow? cs generalizing body with
  | case1 => simp at found
  | case2 c rest after here =>
    have here := Option.filter_eq_some_iff.1 here
    simp only [Option.some.injEq, Prod.mk.injEq] at found
    rw [← found.1, ← found.2, after?_eq_some_iff.1 here.1]; rfl
  | case3 => simp at found
  | case4 c rest _ _ induction =>
    obtain ⟨⟨inner, _⟩, deeper, equal⟩ := Option.map_eq_some_iff.1 found
    simp only [Prod.mk.injEq] at equal
    rw [← equal.1, ← induction (equal.2 ▸ deeper)]; rfl

theorem wordSpan_append (cs : List Char) : (wordSpan cs).1 ++ (wordSpan cs).2 = cs :=
  List.takeWhile_append_dropWhile

theorem condition?_eq {cs behind : List Char} {phrase : Phrase}
    (found : condition? cs = some (phrase, behind)) : phrase.words ++ behind = cs := by
  simp only [condition?, Option.bind_eq_bind, Option.bind_eq_some_iff] at found
  obtain ⟨rest, start, found⟩ := found
  have spanned := wordSpan_append rest
  split at found
  · next head tail first more subject spaced =>
    split at found
    · simp at found
    · obtain ⟨⟨body, after⟩, arrowed, equal⟩ := Option.bind_eq_some_iff.1 found
      simp only [Option.some.injEq, Prod.mk.injEq] at equal
      have whole := after?_eq_some_iff.1 start
      rw [← spanned, spaced, ← arrow?_eq arrowed] at whole
      rw [← equal.1, ← equal.2, whole]
      simp [words]
  · simp at found

theorem inversion?_eq {cs behind : List Char} {phrase : Phrase}
    (found : inversion? cs = some (phrase, behind)) : phrase.words ++ behind = cs := by
  simp only [inversion?, Option.bind_eq_bind, Option.bind_eq_some_iff] at found
  obtain ⟨rest, start, found⟩ := found
  split at found <;> simp only [Option.some.injEq, Prod.mk.injEq, reduceCtorEq] at found
  rw [← found.1, ← found.2, after?_eq_some_iff.1 start]; rfl

theorem timed?_eq {timing : Timing} {cs behind : List Char} {phrase : Phrase}
    (found : timed? timing cs = some (phrase, behind)) : phrase.words ++ behind = cs := by
  simp only [timed?, Option.bind_eq_bind, Option.bind_eq_some_iff] at found
  obtain ⟨rest, start, after, units, found⟩ := found
  split at found <;> simp only [Option.some.injEq, Prod.mk.injEq, reduceCtorEq] at found
  have whole := after?_eq_some_iff.1 start
  have spanned := List.takeWhile_append_dropWhile (p := isDecimal) (l := rest)
  rw [← spanned, after?_eq_some_iff.1 units] at whole
  rw [← found.1, ← found.2, whole]
  simp [words]

theorem expectation?_eq {article : Article} {cs behind : List Char} {phrase : Phrase}
    (found : expectation? article cs = some (phrase, behind)) : phrase.words ++ behind = cs := by
  simp only [expectation?, Option.bind_eq_bind, Option.bind_eq_some_iff] at found
  obtain ⟨rest, start, after, thrown, found⟩ := found
  split at found <;> simp only [Option.some.injEq, Prod.mk.injEq, reduceCtorEq] at found
  have whole := after?_eq_some_iff.1 start
  rw [← wordSpan_append rest, after?_eq_some_iff.1 thrown] at whole
  rw [← found.1, ← found.2, whole]
  simp [words]

theorem at?_eq {cs behind : List Char} {phrase : Phrase} (found : at? cs = some (phrase, behind)) :
    phrase.words ++ behind = cs := by
  simp only [at?, Option.orElse_eq_orElse, Option.orElse_eq_or, Option.or_eq_some_iff] at found
  rcases found with found | ⟨_, found | ⟨_, found | ⟨_, found | ⟨_, found | ⟨_, found | ⟨_, found⟩⟩⟩⟩⟩⟩
  · exact condition?_eq found
  · exact inversion?_eq found
  all_goals first | exact timed?_eq found | exact expectation?_eq found

theorem length_of_at? {cs behind : List Char} {phrase : Phrase}
    (found : at? cs = some (phrase, behind)) : behind.length < cs.length := by
  have := List.length_pos_iff.2 phrase.words_ne_nil
  rw [← at?_eq found, List.length_append]
  omega

end Phrase

/-! ## All phrases of a text -/

/-- The phrases of a text, each with the gap before it, and the text behind the last phrase. -/
structure Extraction where
  found : List (List Char × Phrase)
  tail : List Char
  deriving DecidableEq, Repr

namespace Extraction

open Text

def addChar (c : Char) (extraction : Extraction) : Extraction :=
  match extraction.found with
  | [] => { extraction with tail := c :: extraction.tail }
  | (gap, phrase) :: more => { extraction with found := (c :: gap, phrase) :: more }

def addPhrase (phrase : Phrase) (extraction : Extraction) : Extraction :=
  { extraction with found := ([], phrase) :: extraction.found }

def text (extraction : Extraction) : List Char :=
  extraction.found.flatMap (fun part => part.1 ++ part.2.words) ++ extraction.tail

@[simp] theorem text_addChar (c : Char) (extraction : Extraction) :
    (extraction.addChar c).text = c :: extraction.text := by
  unfold addChar
  split <;> simp_all [text]

@[simp] theorem text_addPhrase (phrase : Phrase) (extraction : Extraction) :
    (extraction.addPhrase phrase).text = phrase.words ++ extraction.text := by
  simp [text, addPhrase]

def phrases (extraction : Extraction) : List Phrase := extraction.found.map (·.2)

def gaps (extraction : Extraction) : List (List Char) :=
  extraction.found.map (·.1) ++ [extraction.tail]

/-- The plain step text: the gaps that are not blank, trimmed and joined by single spaces. -/
def remainder (extraction : Extraction) : List Char :=
  [' '].intercalate ((extraction.gaps.map trim).filter (!·.isEmpty))

end Extraction

namespace Phrase

open Text

/-- Takes the rest of a text apart; `boundary` says whether a phrase may start here. -/
def scan (boundary : Bool) (cs : List Char) : Extraction :=
  match _found : if boundary then at? cs else none with
  | some (phrase, behind) => (scan false behind).addPhrase phrase
  | none =>
    match cs with
    | [] => ⟨[], []⟩
    | c :: rest => (scan (isBlank c) rest).addChar c
termination_by cs.length
decreasing_by
  · split at _found
    · exact length_of_at? _found
    · simp at _found
  · simp

/-- Takes a text apart into its phrases and the gaps between them. -/
def extract (cs : List Char) : Extraction := scan true cs

@[simp] theorem text_scan (boundary : Bool) (cs : List Char) : (scan boundary cs).text = cs := by
  fun_induction scan boundary cs with
  | case1 boundary cs phrase behind found induction =>
    split at found
    · rw [Extraction.text_addPhrase, induction, at?_eq found]
    · simp at found
  | case2 => simp [Extraction.text]
  | case3 boundary c rest _ induction => rw [Extraction.text_addChar, induction]

example : (extract "if x y => run after 5ms".toList).phrases =
    [.condition "x y".toList, .timed .after "5".toList] := by decide +kernel

end Phrase

end GuardedSteps
