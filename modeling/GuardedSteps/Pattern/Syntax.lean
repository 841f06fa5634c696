/-!
Patterns: what a text is matched against by the flag `e`. A pattern is a tree of characters, classes,
anchors, groups, repetitions, look-arounds and back references. Characters are given by code points,
since an escape can name one that no text holds.
-/

namespace GuardedSteps

namespace Pattern

/-! ## Switches -/

/-- The switches under which a part of a pattern is matched. -/
structure Switches where
  ignoreCase : Bool := false
  multiline : Bool := false
  dotAll : Bool := false
  verbose : Bool := false
  ascii : Bool := false
  unicode : Bool := false
  template : Bool := false
  deriving DecidableEq, Repr

namespace Switches

def union (first second : Switches) : Switches where
  ignoreCase := first.ignoreCase || second.ignoreCase
  multiline := first.multiline || second.multiline
  dotAll := first.dotAll || second.dotAll
  verbose := first.verbose || second.verbose
  ascii := first.ascii || second.ascii
  unicode := first.unicode || second.unicode
  template := first.template || second.template

def without (first second : Switches) : Switches where
  ignoreCase := first.ignoreCase && !second.ignoreCase
  multiline := first.multiline && !second.multiline
  dotAll := first.dotAll && !second.dotAll
  verbose := first.verbose && !second.verbose
  ascii := first.ascii && !second.ascii
  unicode := first.unicode && !second.unicode
  template := first.template && !second.template

def isEmpty (switches : Switches) : Bool := switches == {}

def meets (first second : Switches) : Bool := first.without second != first

/-- The switches inside a group: a group that chooses the characters of classes replaces the choice
made outside. -/
def inside (outer added removed : Switches) : Switches :=
  let base := if added.ascii || added.unicode then outer.without { ascii := true, unicode := true }
    else outer
  (base.union added).without removed

end Switches

/-! ## Trees -/

inductive Category
  | digit
  | blank
  | word
  deriving DecidableEq, Repr

inductive ClassItem
  | code (value : Nat)
  | range (low high : Nat)
  | category (kind : Category) (negated : Bool)
  deriving DecidableEq, Repr

inductive Anchor
  | lineStart
  | textStart
  | lineEnd
  | textEnd
  | boundary
  | notBoundary
  deriving DecidableEq, Repr

/-- How a repetition chooses its length: as long as possible, as short as possible, or as long as
possible once and for all. -/
inductive Mode
  | greedy
  | lazy
  | possessive
  deriving DecidableEq, Repr

inductive Node
  | empty
  | code (value : Nat)
  | notCode (value : Nat)
  | any
  | oneOf (negated : Bool) (items : List ClassItem)
  | anchor (place : Anchor)
  | sequence (first second : Node)
  /-- The first node if what follows can be matched after it, else the second. -/
  | choice (first second : Node)
  | never
  | group (number : Option Nat) (added removed : Switches) (body : Node)
  | repetition (mode : Mode) (least : Nat) (most : Option Nat) (body : Node)
  /-- The first way to match the body is the only one tried. -/
  | atomic (body : Node)
  | ahead (negated : Bool) (body : Node)
  /-- The text before has to match, or must not. The body starts as many characters back as the
  least that it can match; the greatest number has to be the same. -/
  | behind (negated : Bool) (least greatest : Nat) (body : Node)
  | back (group : Nat)
  | ifGroup (group : Nat) (present absent : Node)
  deriving Repr, Inhabited

namespace Node

def ofList : List Node → Node
  | [] => .empty
  | [node] => node
  | node :: rest => .sequence node (ofList rest)

def items : Node → List Node
  | .empty => []
  | .sequence first second => first.items ++ second.items
  | node => [node]

def ofChoices (nodes : List Node) : Node := nodes.foldr .choice .never

def isAnchor : Node → Bool
  | .anchor _ => true
  | _ => false

def isRepetition : Node → Bool
  | .repetition .. => true
  | _ => false

end Node

end Pattern

end GuardedSteps
