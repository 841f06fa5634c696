/-!
Runs of character names. The names of neighbouring characters start with the same words, and a run
writes such words once: a name is a small letter, which counts the words that it shares with the name
before it (`a` for none), and then the words that are its own. A point stands for a code point
without a name.
-/

namespace GuardedSteps

namespace Text

namespace CharacterName

/-- The names of consecutive code points from the first one on, written in several lines. -/
structure NameRun where
  first : Nat
  lines : List String

def isMark (c : Char) : Bool := ('a' ≤ c && c ≤ 'z') || c == '.'

def markedPieces (cs : List Char) : List (Char × List Char) :=
  (cs.foldr (fun c (text, pieces) =>
    if isMark c then ([], (c, text) :: pieces) else (c :: text, pieces)) ([], [])).2

def nameWords (cs : List Char) : List (List Char) :=
  cs.foldr (fun c words =>
    if c == ' ' then [] :: words
    else match words with
      | [] => [[c]]
      | word :: others => (c :: word) :: others) [[]]

/-- The code point with the wanted name, where `code` is that of the first piece and `before` the
name in front of it. -/
def findPiece? (wanted : List (List Char)) (code : Nat) (before : List (List Char)) :
    List (Char × List Char) → Option Nat
  | [] => none
  | (mark, text) :: pieces =>
    if mark == '.' then findPiece? wanted (code + 1) before pieces
    else
      let name := before.take (mark.toNat - 97) ++ nameWords text
      if name == wanted then some code else findPiece? wanted (code + 1) name pieces

def NameRun.find? (run : NameRun) (wanted : List (List Char)) : Option Nat :=
  findPiece? wanted run.first [] (markedPieces (run.lines.flatMap String.toList))

example : (NameRun.mk 0x30 ["aDIGIT ZERObONE", ".bTWO"]).find? (nameWords "DIGIT TWO".toList) = some 0x33 :=
  by decide +kernel

end CharacterName

end Text

end GuardedSteps
