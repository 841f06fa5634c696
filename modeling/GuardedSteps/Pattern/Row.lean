import GuardedSteps.Pattern.Notes

/-!
Rows: repetitions of a test of one character. A row needs no loop, since the characters that pass the
test are counted at once. Greedy rows give characters back from the last one on while the rest cannot
be matched, lazy ones take one more, and possessive ones keep what they have.
-/

namespace GuardedSteps

namespace Pattern

def CharacterTest.count (test : CharacterTest) (text : Array Char) : (limit place : Nat) → Nat
  | 0, _ => 0
  | limit + 1, place =>
    match text[place]? with
    | some c => if test.admits c then test.count text limit (place + 1) + 1 else 0
    | none => 0

def CharacterTest.noteCount (test : CharacterTest) (notes : Notes) (place count : Nat) : Notes :=
  notes.reach (if test.stepwise then place + count else place)

/-- The rest after a greedy row with `extra` characters more than it needs, where `least` is the
place behind those it needs. If the rest starts with a certain character, the row ends only before
such a one. -/
def giveBack (text : Array Char) (looped : Bool) (next : Lead) (saved : Notes) (least : Nat)
    (rest : Rest) : (extra : Nat) → Notes → Outcome
  | extra, notes =>
    let place := least + extra
    let attempt :=
      match next with
      | .code value => (Lead.code value).admits text[place]?
      | _ => true
    let outcome := if attempt then rest place (notes.reach place) else .failed notes
    outcome.otherwise fun after =>
      let after := if attempt then saved.takeBack looped after else after
      match extra with
      | 0 => .failed after
      | extra + 1 => giveBack text looped next saved least rest extra after

def takeMore (text : Array Char) (looped : Bool) (test : CharacterTest) (saved : Notes) (rest : Rest) :
    (more place : Nat) → Notes → Outcome
  | more, place, notes =>
    (rest place (notes.reach place)).otherwise fun after =>
      let after := (saved.takeBack looped after).reach place
      match text[place]? with
      | some c =>
        if test.admits c then
          let after := test.noteCount after place 1
          match more with
          | 0 => .failed after
          | more + 1 => takeMore text looped test saved rest more (place + 1) after
        else .failed after
      | none => .failed after

def matchRow (text : Array Char) (looped : Bool) (next : Lead) (mode : Mode) (least : Nat)
    (most : Option Nat) (test : CharacterTest) : Matcher := fun place notes rest =>
  let left := text.size - place
  if left < least then .failed notes
  else
    let most := min (most.getD left) left
    match mode with
    | .lazy =>
      let count := test.count text least place
      let counted := test.noteCount notes place count
      if count < least then .failed counted
      else takeMore text looped test counted rest (most - least) (place + least) counted
    | .greedy =>
      let count := test.count text most place
      let counted := test.noteCount notes place count
      if count < least then .failed counted
      else giveBack text looped next counted (place + least) rest (count - least) counted
    | .possessive =>
      let count := test.count text most place
      let counted := test.noteCount notes place count
      if count < least then .failed counted else rest (place + count) counted

end Pattern

end GuardedSteps
