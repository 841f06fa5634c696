import GuardedSteps.Pattern.Syntax
import GuardedSteps.Text.LetterCase

/-!
Letter case in patterns. Where case is ignored, characters are folded to small letters before they
are compared, either those from A to Z only or those of all alphabets.
-/

namespace GuardedSteps

namespace Pattern

open Text

/-- Which letters are the same as their small letters. -/
inductive Folding
  | none
  | ascii
  | full
  deriving DecidableEq, Repr

def Switches.folding (switches : Switches) : Folding :=
  if !switches.ignoreCase then .none else if switches.ascii then .ascii else .full

def isAsciiLetter (code : Nat) : Bool := (65 ≤ code && code ≤ 90) || (97 ≤ code && code ≤ 122)

def asciiSmall (code : Nat) : Nat := if 65 ≤ code && code ≤ 90 then code + 32 else code

namespace Folding

def fold : Folding → Nat → Nat
  | .none, code => code
  | .ascii, code => asciiSmall code
  | .full, code => smallLetter code

def changes : Folding → Nat → Bool
  | .none, _ => false
  | .ascii, code => isAsciiLetter code
  | .full, code => isCased code

def changesBetween : Folding → (low high : Nat) → Bool
  | .none, _, _ => false
  | .ascii, low, high => (low ≤ 90 && 65 ≤ high) || (low ≤ 122 && 97 ≤ high)
  | .full, low, high => holdsCased low high

def alike : Folding → Nat → List Nat
  | .full, small => likeSmall small
  | _, small => [small]

def sources : Folding → Nat → List Nat
  | .none, code => [code]
  | .ascii, small =>
    if 97 ≤ small && small ≤ 122 then [small, small - 32]
    else if asciiSmall small == small then [small]
    else []
  | .full, small =>
    (small :: (sameLetters.filter fun entry => entry.2.contains small).map Prod.fst).flatMap capitalsOf

example : Folding.full.sources 0x73 = [0x73, 0x53, 0x17f] ∧ Folding.ascii.sources 0x73 = [0x73, 0x53] :=
  by decide +kernel

end Folding

end Pattern

end GuardedSteps
