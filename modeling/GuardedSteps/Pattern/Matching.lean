import GuardedSteps.Pattern.Loop
import GuardedSteps.Pattern.Reader
import GuardedSteps.Pattern.Row

/-!
Matching. A program is matched from left to right; where it leaves a choice, the preferred way is
taken first and given up only if the rest of the program cannot be matched after it.
-/

namespace GuardedSteps

namespace Pattern

open Text

/-! ## Places -/

def wordAt (text : Array Char) (switches : Switches) (place : Nat) : Bool :=
  (text[place]?.map (Category.word.admits switches.ascii)).getD false

def atBoundary (text : Array Char) (switches : Switches) (place : Nat) : Bool :=
  (0 < place && wordAt text switches (place - 1)) != wordAt text switches place

/-- Whether a place is one that an anchor asks for. A text without characters has no word
boundaries, and no places that are none either. -/
def Anchor.holds (text : Array Char) (switches : Switches) (anchor : Anchor) (place : Nat) : Bool :=
  match anchor with
  | .lineStart => place == 0 || (switches.multiline && text[place - 1]? == some '\n')
  | .textStart => place == 0
  | .lineEnd =>
    place == text.size ||
      (text[place]? == some '\n' && (switches.multiline || place + 1 == text.size))
  | .textEnd => place == text.size
  | .boundary => !text.isEmpty && atBoundary text switches place
  | .notBoundary => !text.isEmpty && !atBoundary text switches place

def copyAt? (text : Array Char) (folding : Folding) (start finish place : Nat) : Option Nat :=
  let width := finish - start
  let same := (List.range width).all fun offset =>
    match text[start + offset]?, text[place + offset]? with
    | some wanted, some c => folding.fold wanted.toNat == folding.fold c.toNat
    | _, _ => false
  if same then some (place + width) else none

/-! ## Programs -/

/-- Match a program and then the rest, of which `next` is the lead. `looped` says that the program
stands in a loop. -/
def Program.run (text : Array Char) : Program → (looped : Bool) → (next : Lead) → Matcher
  | .done, _, _, place, notes, rest => rest place notes
  | .one test, _, _, place, notes, rest =>
    match text[place]? with
    | some c => if test.admits c then rest (place + 1) notes else .failed notes
    | none => .failed notes
  | .anchor kind switches, _, _, place, notes, rest =>
    if kind.holds text switches place then rest place notes else .failed notes
  | .mark index, _, _, place, notes, rest => rest place (notes.mark index place)
  | .sequence first second, looped, next, place, notes, rest =>
    first.run text looped (second.lead?.getD next) place notes
      fun middle notes => second.run text looped next middle notes rest
  | .choice first second, looped, next, place, notes, rest =>
    if (first.lead?.getD .other).admits text[place]? then
      (first.run text looped .other place (notes.reach place) rest).otherwise fun after =>
        second.run text looped next place (notes.takeBack looped after) rest
    else second.run text looped next place notes rest
  | .never, _, _, _, notes, _ => .failed notes
  | .row mode least most test, looped, next, place, notes, rest =>
    matchRow text looped next mode least most test place notes rest
  | .loop mode least most body, looped, _, place, notes, rest =>
    let inside := match mode with
      | .possessive => looped
      | _ => true
    matchLoop text looped mode least most (body.run text inside .other) place notes rest
  | .atomic body, looped, _, place, notes, rest =>
    match Matcher.alone (body.run text looped .other) place (notes.reach place) with
    | .matched after => rest after.reached after
    | .failed after => .failed (after.reach place)
  | .look negated width body, looped, _, place, notes, rest =>
    if place < width then if negated then rest place notes else .failed notes
    else
      let start := place - width
      match Matcher.alone (body.run text looped .other) start (notes.reach start), negated with
      | .matched after, false => rest place after
      | .matched after, true => .failed after
      | .failed after, false => .failed after
      | .failed after, true => rest place (notes.takeBack looped after)
  | .back group folding, _, _, place, notes, rest =>
    match (notes.group? group).bind fun (start, finish) => copyAt? text folding start finish place with
    | some behind => rest behind notes
    | none => .failed notes
  | .ifGroup group present absent, looped, next, place, notes, rest =>
    if (notes.group? group).isSome then
      -- Only an empty alternative lets the first one see what follows.
      let next := match absent with
        | .done => next
        | _ => .other
      present.run text looped next place notes rest
    else absent.run text looped next place notes rest

/-! ## Whole patterns -/

def matchesWhole (pattern : Read) (text : Array Char) : Except Problem Bool := do
  let program ← pattern.node.program pattern.switches
  if program.looksTooFar then throw (.obstacle .lookBehindTooFar)
  if text.size < pattern.leastWidth then return false
  let atEnd : Rest := fun place notes => if place = text.size then .matched notes else .failed notes
  match program.run text false .other 0 .start atEnd with
  | .failed _ => return false
  | .matched notes => if notes.areCrossed then throw (.obstacle .crossedGroup) else return true

def test (pattern text : String) : Except Problem Bool := do
  matchesWhole (← read pattern.toList) text.toList.toArray

end Pattern

end GuardedSteps
