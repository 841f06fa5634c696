import GuardedSteps.Phrase.Scan

/-!
Guards in front of a step of fixed words. A step definition matches its fixed words with one or more
phrases in front, each followed by one space. A condition may reach beyond its first arrow when the
fixed words are found only that way; the shortest conditions are preferred, and then as many phrases
as possible.
-/

namespace GuardedSteps

namespace Phrase

open Text

def laterEnds (cs : List Char) : List (List Char) :=
  match _found : arrow? cs with
  | none => []
  | some (_, behind) => behind :: laterEnds behind
termination_by cs.length
decreasing_by
  rw [← arrow?_eq _found]
  simp [arrow]
  omega

/-- What follows the phrase at the front, for each place where the phrase may end. -/
def ends (cs : List Char) : List (List Char) :=
  match at? cs with
  | none => []
  | some (.condition _, behind) => behind :: laterEnds behind
  | some (_, behind) => [behind]

theorem length_of_mem_laterEnds {cs behind : List Char} (member : behind ∈ laterEnds cs) :
    behind.length < cs.length := by
  fun_induction laterEnds cs with
  | case1 => simp at member
  | case2 cs body first found induction =>
    have shorter : first.length < cs.length := by
      rw [← arrow?_eq found]
      simp [arrow]
      omega
    rcases List.mem_cons.1 member with rfl | member
    · exact shorter
    · exact Nat.lt_trans (induction member) shorter

theorem length_of_mem_ends {cs behind : List Char} (member : behind ∈ ends cs) :
    behind.length < cs.length := by
  unfold ends at member
  split at member
  · simp at member
  · next clause first found =>
    have shorter := length_of_at? found
    rcases List.mem_cons.1 member with rfl | member
    · exact shorter
    · exact Nat.lt_trans (length_of_mem_laterEnds member) shorter
  · next found =>
    rw [List.mem_singleton.1 member]
    exact length_of_at? found

/-- The first acceptable place behind further phrases, each with a space in front; no further phrase
comes last. -/
def skipPhrases {α : Type} (accept : List Char → Option α) (cs : List Char) : Option α :=
  (match _spaced : after? [' '] cs with
    | none => none
    | some rest => (ends rest).attach.findSome? fun behind => skipPhrases accept behind.1) <|>
  accept cs
termination_by cs.length
decreasing_by
  have := length_of_mem_ends behind.2
  rw [after?_eq_some_iff.1 _spaced]
  simp
  omega

end Phrase

/-- A text that is split at the fixed words of a step: the guards in front, if there are any, and
what follows the fixed words. -/
structure Lead where
  guards : Option (List Char)
  rest : List Char
  deriving DecidableEq, Repr

namespace Lead

open Text Phrase

def behind? (fixed cs : List Char) : Option (List Char) :=
  (after? fixed cs).filter (!·.contains '\n')

/-- Splits a text at the fixed words of a step, with guards in front when that is possible. -/
def split? (fixed cs : List Char) : Option Lead :=
  let accept (rest : List Char) : Option Lead := do
    let behind ← behind? fixed (← after? [' '] rest)
    some ⟨some (cs.take (cs.length - rest.length)), behind⟩
  (ends cs).findSome? (skipPhrases accept) <|> (behind? fixed cs).map fun behind => ⟨none, behind⟩

end Lead

end GuardedSteps
