import GuardedSteps.Phrase.Basic
import GuardedSteps.Text.Affix
import GuardedSteps.Text.Digit

/-!
Reading a text that is meant to be one phrase. The text is first read word for word, as the phrase
whose words it is. What is no phrase in that way and starts like a timing has no reading; anything
else is a condition, whose `if` and arrow are taken away where they stand.
-/

namespace GuardedSteps

namespace Phrase

open Text

/-! ## Word for word -/

def startsTiming? (cs : List Char) : Option (Timing × List Char) :=
  [Timing.after, .within, .during].findSome? fun timing =>
    (after? timing.word cs).map fun rest => (timing, rest)

def asMillis? (cs : List Char) : Option (List Char) := do
  let digits ← before? unit cs
  if digits ≠ [] ∧ digits.all isDecimal then some digits else none

def asTimed? (cs : List Char) : Option Phrase :=
  (startsTiming? cs).bind fun start => (asMillis? start.2).map (.timed start.1)

def asExpectation? (cs : List Char) : Option Phrase :=
  [Article.a, .an].findSome? fun article => do
    let typeName ← before? thrownWords (← after? article.word cs)
    if typeName ≠ [] ∧ typeName.all (!isBlank ·) then some (.expectation article typeName) else none

/-- Whether a clause is a subject of one word and, behind one space, a body on the same line. -/
def isClause (clause : List Char) : Bool :=
  match wordSpan clause with
  | (_ :: _, ' ' :: body@(_ :: _)) => !body.contains '\n'
  | _ => false

def asCondition? (cs : List Char) : Option Phrase := do
  let clause ← before? arrow (← after? ifWord cs)
  if isClause clause then some (.condition clause) else none

def ofWords? (cs : List Char) : Option Phrase :=
  if cs = inversionWords then some .inversion
  else asTimed? cs <|> asExpectation? cs <|> asCondition? cs

/-! ## Everything else -/

/-- The clause of a condition, without one `if` in front and then without one arrow at the end. -/
def clauseOf (cs : List Char) : List Char :=
  let rest := (after? ifWord cs).getD cs
  (before? arrow rest).getD rest

def read? (cs : List Char) : Option Phrase :=
  match ofWords? cs, startsTiming? cs with
  | some phrase, _ => some phrase
  | none, some _ => none
  | none, none => some (.condition (clauseOf cs))

example : read? ['a', 'f', 't', 'e', 'r', ' ', '5', 'm', 's'] = some (.timed .after ['5']) ∧
    read? ['a', 'f', 't', 'e', 'r', ' ', '5'] = none ∧
    ofWords? ['i', 'f', ' ', 'x'] = none ∧
    read? ['i', 'f', ' ', 'x'] = some (.condition ['x']) := by decide

end Phrase

end GuardedSteps
