/-!
Guard phrases. A phrase is a fixed form of words in a step text that guards the rest of the step:
a condition, an inversion, one of three timings, or the expectation of an error. The parts of a
phrase are kept as they stand in the text, so that its words can be written out again.
-/

namespace GuardedSteps

inductive Timing
  | after
  | within
  | during
  deriving DecidableEq, Repr

def Timing.word : Timing → List Char
  | .after => ['a', 'f', 't', 'e', 'r', ' ']
  | .within => ['w', 'i', 't', 'h', 'i', 'n', ' ']
  | .during => ['d', 'u', 'r', 'i', 'n', 'g', ' ']

inductive Article
  | a
  | an
  deriving DecidableEq, Repr

def Article.word : Article → List Char
  | .a => ['a', ' ']
  | .an => ['a', 'n', ' ']

inductive Phrase
  | condition (clause : List Char)
  | inversion
  | timed (timing : Timing) (digits : List Char)
  | expectation (article : Article) (typeName : List Char)
  deriving DecidableEq, Repr

namespace Phrase

/-! ## The words of a phrase -/

def ifWord : List Char := ['i', 'f', ' ']

def arrow : List Char := [' ', '=', '>']

def inversionWords : List Char :=
  ['i', 't', ' ', 'i', 's', ' ', 'n', 'o', 't', ' ', 't', 'r', 'u', 'e', ' ', 't', 'h', 'a', 't']

def unit : List Char := ['m', 's']

def thrownWords : List Char :=
  [' ', 'i', 's', ' ', 't', 'h', 'r', 'o', 'w', 'n', ' ', 'w', 'h', 'e', 'n']

def words : Phrase → List Char
  | .condition clause => ifWord ++ clause ++ arrow
  | .inversion => inversionWords
  | .timed timing digits => timing.word ++ digits ++ unit
  | .expectation article typeName => article.word ++ typeName ++ thrownWords

theorem words_ne_nil (phrase : Phrase) : phrase.words ≠ [] := by
  cases phrase <;> simp [words, ifWord, inversionWords, unit, thrownWords]

example : words (.timed .after ['5']) = ['a', 'f', 't', 'e', 'r', ' ', '5', 'm', 's'] := by decide +kernel

end Phrase

end GuardedSteps
