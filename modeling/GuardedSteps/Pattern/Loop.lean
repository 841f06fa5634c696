import GuardedSteps.Pattern.Notes

/-!
Loops: repetitions of a body. Once the least count is reached, the body is repeated only where the
last repetition has moved on, so that a loop ends. The `bound` is larger than the number of
repetitions that a text leaves room for.
-/

namespace GuardedSteps

namespace Pattern

/-- Whether one more repetition is allowed after `count` of them, where the last one that was not
needed started at the place `last`. -/
def mayRepeat (most : Option Nat) (count : Nat) (last : Option Nat) (place : Nat) : Bool :=
  most.all (count < ·) && last != some place

def loopGreedy (body : Matcher) (least : Nat) (most : Option Nat) :
    (bound count : Nat) → (last : Option Nat) → Matcher
  | 0, _, _, _, notes, _ => .failed notes
  | bound + 1, count, last, place, notes, rest =>
    let notes := notes.reach place
    let again last := body place notes (loopGreedy body least most bound (count + 1) last · · rest)
    let leave notes := (rest place notes).otherwise fun after => .failed (after.reach place)
    if count < least then (again last).otherwise fun after => .failed (after.reach place)
    else if mayRepeat most count last place then (again (some place)).otherwise fun _ => leave notes
    else leave notes

def loopLazy (body : Matcher) (looped : Bool) (least : Nat) (most : Option Nat) :
    (bound count : Nat) → (last : Option Nat) → Matcher
  | 0, _, _, _, notes, _ => .failed notes
  | bound + 1, count, last, place, notes, rest =>
    let notes := notes.reach place
    let again last notes :=
      (body place notes (loopLazy body looped least most bound (count + 1) last · · rest)).otherwise
        fun after => .failed (after.reach place)
    if count < least then again last notes
    else
      (rest place notes).otherwise fun after =>
        let after := (notes.takeBack looped after).reach place
        if mayRepeat most count last place then again (some place) after else .failed after

/-- Repeat as often as possible, each time in the preferred way, which is never given up. Where a
repetition fails that is not needed, the rest goes on from the place that it has reached. -/
def loopPossessive (body : Matcher) (start least : Nat) (most : Option Nat) :
    (bound count : Nat) → (last : Option Nat) → Matcher
  | 0, _, _, _, notes, _ => .failed notes
  | bound + 1, count, last, place, notes, rest =>
    let notes := notes.reach place
    if count < least then
      ((body.alone place notes).otherwise fun after => .failed (after.reach start)).andThen fun after =>
        loopPossessive body start least most bound (count + 1) last after.reached after rest
    else if mayRepeat most count last place then
      match body.alone place notes with
      | .matched after =>
        loopPossessive body start least most bound (count + 1) (some place) after.reached after rest
      | .failed after => rest after.reached { notes with reached := after.reached }
    else rest place notes

def matchLoop (text : Array Char) (looped : Bool) (mode : Mode) (least : Nat) (most : Option Nat)
    (body : Matcher) : Matcher := fun place notes rest =>
  let bound := least + (text.size + 2) * (text.size + 2)
  match mode with
  | .greedy => loopGreedy body least most bound 0 none place notes rest
  | .lazy => loopLazy body looped least most bound 0 none place notes rest
  | .possessive => loopPossessive body place least most bound 0 none place notes rest

end Pattern

end GuardedSteps
