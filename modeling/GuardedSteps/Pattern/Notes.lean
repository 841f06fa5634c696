import GuardedSteps.Pattern.Program

/-!
What matching notes. A part of a program is matched from a place on, together with the rest of the
work, and either way of ending leaves notes: the marks of the groups, and the last place from which a
part was tried. The notes of a failed attempt stay visible, unless they are taken back.
-/

namespace GuardedSteps

namespace Pattern

structure Notes where
  reached : Nat
  marks : Array (Option Nat)

namespace Notes

def start : Notes := ⟨0, #[]⟩

@[inline]
def reach (notes : Notes) (place : Nat) : Notes := { notes with reached := place }

def mark (notes : Notes) (index place : Nat) : Notes :=
  let size := notes.marks.size
  { notes with
    marks := if index < size then notes.marks.setIfInBounds index (some place)
      else (notes.marks ++ Array.replicate (index - size) none).push (some place) }

def group? (notes : Notes) (group : Nat) : Option (Nat × Nat) := do
  let start ← (← notes.marks[startMark group]?)
  let finish ← (← notes.marks[startMark group + 1]?)
  if start ≤ finish then some (start, finish) else none

/-- Take back the marks that an attempt has set. Inside a loop all saved marks come back, elsewhere
only the later ones go. -/
def takeBack (saved : Notes) (looped : Bool) (after : Notes) : Notes :=
  { after with
    marks := if looped then saved.marks else after.marks.shrink saved.marks.size }

def areCrossed (notes : Notes) : Bool :=
  (List.range (notes.marks.size / 2)).any fun index =>
    match notes.marks[2 * index]?, notes.marks[2 * index + 1]? with
    | some (some start), some (some finish) => finish < start
    | _, _ => false

end Notes

inductive Outcome
  | matched (notes : Notes)
  | failed (notes : Notes)

@[inline]
def Outcome.otherwise (outcome : Outcome) (other : Notes → Outcome) : Outcome :=
  match outcome with
  | .matched notes => .matched notes
  | .failed notes => other notes

@[inline]
def Outcome.andThen (outcome : Outcome) (next : Notes → Outcome) : Outcome :=
  match outcome with
  | .matched notes => next notes
  | .failed notes => .failed notes

/-- The rest of the work, from a place on. -/
abbrev Rest := Nat → Notes → Outcome

abbrev Matcher := Nat → Notes → Rest → Outcome

def Rest.stop : Rest := fun place notes => .matched (notes.reach place)

/-- A part that is matched by itself, once and for all. -/
def Matcher.alone (body : Matcher) (place : Nat) (notes : Notes) : Outcome := body place notes Rest.stop

end Pattern

end GuardedSteps
