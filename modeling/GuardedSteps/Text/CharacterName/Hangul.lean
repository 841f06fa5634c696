/-!
The names of Hangul syllables. A syllable has a leading consonant, a vowel and a trailing consonant,
and its code point counts the syllables in this order; the first and the last part may be empty.
-/

namespace GuardedSteps

namespace Text

namespace CharacterName

def leadingParts : List (List Char) := [['G'], ['G', 'G'], ['N'], ['D'], ['D', 'D'], ['R'], ['M'],
  ['B'], ['B', 'B'], ['S'], ['S', 'S'], [], ['J'], ['J', 'J'], ['C'], ['K'], ['T'], ['P'], ['H']]

def vowelParts : List (List Char) := [['A'], ['A', 'E'], ['Y', 'A'], ['Y', 'A', 'E'], ['E', 'O'],
  ['E'], ['Y', 'E', 'O'], ['Y', 'E'], ['O'], ['W', 'A'], ['W', 'A', 'E'], ['O', 'E'], ['Y', 'O'],
  ['U'], ['W', 'E', 'O'], ['W', 'E'], ['W', 'I'], ['Y', 'U'], ['E', 'U'], ['Y', 'I'], ['I']]

def trailingParts : List (List Char) := [[], ['G'], ['G', 'G'], ['G', 'S'], ['N'], ['N', 'J'],
  ['N', 'H'], ['D'], ['L'], ['L', 'G'], ['L', 'M'], ['L', 'B'], ['L', 'S'], ['L', 'T'], ['L', 'P'],
  ['L', 'H'], ['M'], ['B'], ['B', 'S'], ['S'], ['S', 'S'], ['N', 'G'], ['J'], ['C'], ['K'], ['T'],
  ['P'], ['H']]

def longestPart? (parts : List (List Char)) (cs : List Char) : Option (Nat × List Char) :=
  let fitting := parts.zipIdx.filter fun part => part.1.isPrefixOf cs
  let longest := fitting.foldl (fun best part =>
    match best with
    | none => some part
    | some held => if held.1.length < part.1.length then some part else best) none
  longest.map fun part => (part.2, cs.drop part.1.length)

def hangulSyllable? (cs : List Char) : Option Nat := do
  let (leading, cs) ← longestPart? leadingParts cs
  let (vowel, cs) ← longestPart? vowelParts cs
  let (trailing, cs) ← longestPart? trailingParts cs
  if cs.isEmpty then
    some (0xac00 + (leading * vowelParts.length + vowel) * trailingParts.length + trailing)
  else none

example : hangulSyllable? ['G', 'A'] = some 0xac00 ∧ hangulSyllable? ['H', 'I', 'H'] = some 0xd7a3 ∧
    hangulSyllable? ['G'] = none := by decide

end CharacterName

end Text

end GuardedSteps
