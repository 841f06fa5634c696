import GuardedSteps.Number.Reading
import GuardedSteps.Pattern.Escape

/-!
Repetitions of the item before them, with a least and a greatest count.
-/

namespace GuardedSteps

namespace Pattern

open Text

def count (digits : List Char) : Reading Nat := do
  if Number.maxDigits < digits.length then obstruct (.countTooLong digits.length)
  let value := digitsValue digits
  if countLimit ≤ value then obstruct .countTooLarge
  return value

/-- The counts between braces, of which the opening one is taken. What does not have their form is
no repetition, and reading goes back to just behind the brace. -/
def counts : Reading (Option (Nat × Option Nat)) := do
  let saved ← get
  if saved.next == some (.plain '\x7d') then return none
  let bound ← remaining
  let low ← takeWhile isAsciiDigit bound
  let high ← if ← accept ',' then takeWhile isAsciiDigit bound else pure low
  if !(← accept '\x7d') then
    set saved
    return none
  let least ← if low.isEmpty then pure 0 else count low
  if high.isEmpty then return some (least, none)
  let most ← count high
  if most < least then
    throw (.fault ⟨.leastAboveMost, some saved.place⟩)
  return some (least, some most)

def repetitionCounts (c : Char) : Reading (Option (Nat × Option Nat)) :=
  match c with
  | '?' => return some (0, some 1)
  | '*' => return some (0, none)
  | '+' => return some (1, none)
  | _ => counts

/-- Repeat the last item read. The items are the latest first, and `start` is the place of the
repetition. -/
def repeatLast (items : List Node) (start : Nat) (least : Nat) (most : Option Nat) :
    Reading (List Node) := do
  match items with
  | [] => throw (.fault ⟨.nothingToRepeat, some start⟩)
  | item :: before =>
    if item.isAnchor then throw (.fault ⟨.nothingToRepeat, some start⟩)
    if item.isRepetition then throw (.fault ⟨.repeatedRepetition, some start⟩)
    if ← accept '?' then return .repetition .lazy least most item :: before
    if ← accept '+' then return .repetition .possessive least most item :: before
    return .repetition .greedy least most item :: before

end Pattern

end GuardedSteps
