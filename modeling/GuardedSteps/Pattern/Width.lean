import GuardedSteps.Pattern.Syntax

/-!
Widths of patterns: bounds on the number of characters that a pattern matches. A look-behind is
tried as far back as its body is wide, and a text below the least width is not matched at all.
-/

namespace GuardedSteps

namespace Pattern

structure Width where
  least : Nat
  greatest : Nat
  deriving DecidableEq, Repr

/-- Counts and widths from four thousand million on are not told apart. -/
def countLimit : Nat := 4294967295

namespace Width

def zero : Width := ⟨0, 0⟩

def one : Width := ⟨1, 1⟩

def ofNever : Width := ⟨countLimit - 1, 0⟩

/-- Large widths are cut down, the least one a little more: a width that is cut is not fixed. -/
def capped (width : Width) : Width :=
  ⟨min width.least (countLimit - 1), min width.greatest countLimit⟩

def add (first second : Width) : Width :=
  ⟨first.least + second.least, first.greatest + second.greatest⟩

def either (first second : Width) : Width :=
  ⟨min first.least second.least, max first.greatest second.greatest⟩

def times (width : Width) (least : Nat) (most : Option Nat) : Width :=
  ⟨width.least * least, width.greatest * most.getD countLimit⟩

end Width

def Node.width (groups : Nat → Width) : Node → Width
  | .empty | .anchor _ | .ahead .. | .behind .. => .zero
  | .code _ | .notCode _ | .any | .oneOf .. => .one
  | .never => .ofNever
  | .sequence first second => ((first.width groups).add (second.width groups)).capped
  | .choice first second => (first.width groups).either (second.width groups)
  | .group _ _ _ body | .atomic body => body.width groups
  | .repetition _ least most body => ((body.width groups).times least most).capped
  | .back number => groups number
  | .ifGroup _ present absent => (present.width groups).either (absent.width groups)

example : (Node.repetition .greedy 2 none .any).width (fun _ => .zero) = ⟨2, countLimit⟩ := rfl

end Pattern

end GuardedSteps
