import GuardedSteps.Text.Affix
import GuardedSteps.Variables

/-!
Templates. A template is text with placeholders, which are paths between double braces. Filling it
puts the plain text of its value in place of each placeholder, once and from left to right; a
template that is nothing but a placeholder stands for the value itself.
-/

namespace GuardedSteps

namespace Template

open Text

inductive Piece
  | literal (c : Char)
  | placeholder (path : List Char)
  deriving DecidableEq, Repr

def opening : List Char := ['\x7b', '\x7b']

def closing : List Char := ['\x7d', '\x7d']

def isBrace (c : Char) : Bool := c == '\x7b' || c == '\x7d'

/-- The path inside the braces, without blanks around it; of nothing but blanks the last one
remains. -/
def pathInside (inner : List Char) : List Char :=
  if (trim inner).isEmpty then inner.drop (inner.length - 1) else trim inner

def placeholder? (cs : List Char) : Option (List Char × List Char) := do
  let rest ← after? opening cs
  let inner := rest.takeWhile (!isBrace ·)
  let behind ← after? closing (rest.dropWhile (!isBrace ·))
  if inner.isEmpty then none else some (pathInside inner, behind)

theorem length_of_placeholder? {cs path behind : List Char}
    (found : placeholder? cs = some (path, behind)) : behind.length < cs.length := by
  simp only [placeholder?, Option.bind_eq_bind, Option.bind_eq_some_iff] at found
  obtain ⟨rest, start, after, stop, found⟩ := found
  split at found <;> simp only [Option.some.injEq, Prod.mk.injEq, reduceCtorEq] at found
  have whole := congrArg List.length (after?_eq_some_iff.1 start)
  have closed := congrArg List.length (after?_eq_some_iff.1 stop)
  have spanned := congrArg List.length
    (List.takeWhile_append_dropWhile (p := fun c => !isBrace c) (l := rest))
  rw [← found.2]
  simp only [List.length_append, opening, closing, List.length_cons, List.length_nil] at *
  omega

def pieces (cs : List Char) : List Piece :=
  match _found : placeholder? cs with
  | some (path, behind) => .placeholder path :: pieces behind
  | none =>
    match cs with
    | [] => []
    | c :: rest => .literal c :: pieces rest
termination_by cs.length
decreasing_by
  · exact length_of_placeholder? _found
  · simp

def whole? (cs : List Char) : Option (List Char) :=
  match placeholder? (trim cs) with
  | some (path, []) => some path
  | _ => none

inductive Fault
  | index (fault : Number.IntegerFault)
  | value (fault : Value.Fault)
  deriving DecidableEq, Repr

def valueAt (bindings : Variables) (path : List Char) : Except Fault Value :=
  match bindings.getOrSelf (String.ofList path) with
  | .ok value => .ok value
  | .error fault => .error (.index fault)

def plainText (value : Value) : Except Fault String :=
  match value.asText with
  | .ok text => .ok text
  | .error fault => .error (.value fault)

def fillPiece (bindings : Variables) : Piece → Except Fault (List Char)
  | .literal c => .ok [c]
  | .placeholder path => do return (← plainText (← valueAt bindings path)).toList

def fill (bindings : Variables) (cs : List Char) : Except Fault String := do
  let filled ← (pieces cs).mapM (fillPiece bindings)
  return String.ofList filled.flatten

/-- What a template stands for: a value if it is a single placeholder, otherwise the filled text. -/
def resolve (bindings : Variables) (template : String) : Except Fault Value :=
  match whole? template.toList with
  | some path => valueAt bindings path
  | none => (fill bindings template.toList).map .text

def resolveFlag (bindings : Variables) (template : String) : Except Fault String := do
  plainText (← resolve bindings template)

end Template

end GuardedSteps
