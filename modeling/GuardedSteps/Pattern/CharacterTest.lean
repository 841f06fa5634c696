import GuardedSteps.Pattern.Folding
import GuardedSteps.Text.Digit
import GuardedSteps.Text.Hexadecimal
import GuardedSteps.Text.Word

/-!
Tests of single characters: a character, any character but one, any character at all, or the members
of a class.
-/

namespace GuardedSteps

namespace Pattern

open Text

/-! ## Classes of characters -/

def isAsciiBlank (code : Nat) : Bool := code == 32 || (9 ≤ code && code ≤ 13)

def isAsciiWord (c : Char) : Bool := isAsciiLetter c.toNat || isAsciiDigit c || c == '_'

def Category.admits (ascii : Bool) : Category → Char → Bool
  | .digit, c => if ascii then isAsciiDigit c else isDecimal c
  | .blank, c => if ascii then isAsciiBlank c.toNat else isBlank c
  | .word, c => if ascii then isAsciiWord c else isWord c

def foldingLimit : Nat := 0x10000

namespace ClassItem

def isFolded (folding : Folding) : ClassItem → Bool
  | .code value => folding.changes value || foldingLimit ≤ value
  | .range low high => folding.changesBetween low high || foldingLimit ≤ high
  | .category _ _ => false

def admits (ascii : Bool) (c : Char) : ClassItem → Bool
  | .code value => value == c.toNat
  | .range low high => low ≤ c.toNat && c.toNat ≤ high
  | .category kind negated => kind.admits ascii c != negated

/-- Whether the member of a class admits a folded character, which comes from one of the `sources`.
A member beyond the limit of folding is compared with the folded character itself, a range beyond it
with its capital too. -/
def admitsFolded (ascii : Bool) (folded : Char) (sources : List Nat) : ClassItem → Bool
  | .code value =>
    if value < foldingLimit then sources.contains value else value == folded.toNat
  | .range low high =>
    let between code := low ≤ code && code ≤ high
    sources.any (fun code => code < foldingLimit && between code) ||
      (foldingLimit ≤ high && (between folded.toNat || between (capitalLetter folded.toNat)))
  | .category kind negated => kind.admits ascii folded != negated

end ClassItem

/-! ## Tests -/

/-- What a part of a pattern asks of the next character before anything else. -/
inductive Lead
  | code (value : Nat)
  | oneOf (admits : Char → Bool)
  | other

/-- Whether a part with this lead may match before the given character. -/
def Lead.admits : Lead → Option Char → Bool
  | .other, _ => true
  | .code value, some c => c.toNat == value
  | .oneOf admits, some c => admits c
  | _, none => false

structure CharacterTest where
  admits : Char → Bool
  lead : Lead := .other
  stepwise : Bool := false

def codeTest (switches : Switches) (value : Nat) (negated : Bool) : CharacterTest :=
  let folding := switches.folding
  if folding.changes value then
    let wanted := folding.alike (folding.fold value)
    { admits := fun c => wanted.contains (folding.fold c.toNat) != negated
      stepwise := 1 < wanted.length }
  else
    { admits := fun c => (c.toNat == value) != negated
      lead := if negated then .other else .code value }

def classTest (switches : Switches) (negated : Bool) (items : List ClassItem) : CharacterTest :=
  let folding := switches.folding
  if folding != .none && items.any (·.isFolded folding) then
    { admits := fun c =>
        let folded := folding.fold c.toNat
        let sources := folding.sources folded
        items.any (·.admitsFolded switches.ascii (Char.ofNat folded) sources) != negated
      stepwise := true }
  else
    let admits := fun c => items.any (·.admits switches.ascii c) != negated
    { admits := admits, lead := .oneOf admits }

def Node.test? (switches : Switches) : Node → Option CharacterTest
  | .code value => some (codeTest switches value false)
  | .notCode value => some (codeTest switches value true)
  | .any => some { admits := fun c => switches.dotAll || c != '\n' }
  | .oneOf negated items => some (classTest switches negated items)
  | .group none added removed body => body.test? (switches.inside added removed)
  | _ => none

end Pattern

end GuardedSteps
