import GuardedSteps.Pattern.Alternatives
import GuardedSteps.Pattern.CharacterClass
import GuardedSteps.Pattern.Repetition
import GuardedSteps.Pattern.Switch

/-!
Reading patterns: alternatives, sequences and groups, down to single characters.
-/

namespace GuardedSteps

namespace Pattern

open Text

def isLayout (c : Char) : Bool :=
  c == ' ' || c == '\t' || c == '\n' || c == '\r' || c == '\x0b' || c == '\x0c'

def skipLine : (bound : Nat) → Reading Unit
  | 0 => throw .tooDeep
  | bound + 1 => do
    match ← take with
    | none => return
    | some token => if token == .plain '\n' then return else skipLine bound

def skipComment (start : Nat) : (bound : Nat) → Reading Unit
  | 0 => throw .tooDeep
  | bound + 1 => do
    if (← get).next.isNone then throw (.fault ⟨.unterminatedComment, some start⟩)
    if (← take) == some (.plain ')') then return else skipComment start bound

def expectClosing (start : Nat) : Reading Unit := do
  if !(← accept ')') then throw (.fault ⟨.unterminatedGroup, some start⟩)

inductive Opening
  | group (called : Option (List Char)) (captures : Bool) (atomic : Bool) (added removed : Switches)
  | around (behind negated : Bool)
  | condition
  | node (node : Node)
  | nothing
  | wholeSwitches

def expectToken : Reading Token := do
  match ← take with
  | none => complain .endOfPattern 0
  | some token => return token

def unknownExtension (lead : String) (token : Token) (back : Nat) : Reading α :=
  complain (.unknownExtension (lead ++ String.ofList token.chars)) (token.chars.length + back)

def opening (start : Nat) : Reading Opening := do
  if !(← accept '?') then return .group none true false {} {}
  let token ← expectToken
  match token with
  | .plain 'P' =>
    if ← accept '<' then
      let called ← name '>' "group name"
      checkName called
      return .group (some called) true false {} {}
    else if ← accept '=' then
      let called ← name ')' "group name"
      checkName called
      let number ← namedGroup called
      if ((← get).groupWidth? number).isNone then complain .openGroup (called.length + 1)
      checkLookBehind number
      return .node (.back number)
    else
      let other ← expectToken
      unknownExtension "?P" other 2
  | .plain ':' => return .group none false false {} {}
  | .plain '#' =>
    skipComment start (← remaining)
    return .nothing
  | .plain '=' => return .around false false
  | .plain '!' => return .around false true
  | .plain '<' =>
    let other ← expectToken
    match other with
    | .plain '=' => return .around true false
    | .plain '!' => return .around true true
    | _ => unknownExtension "?<" other 2
  | .plain '(' => return .condition
  | .plain '>' => return .group none false true {} {}
  | .plain c =>
    if (switch? c).isSome || c == '-' then
      match ← switchesIn c with
      | none => return .wholeSwitches
      | some (added, removed) => return .group none false false added removed
    else unknownExtension "?" token 1
  | .escaped _ => unknownExtension "?" token 1

def lookAround (behind negated : Bool) (body : Node) : Reading Node := do
  if behind then
    let width ← widthOf body
    return .behind negated width.least width.greatest body
  else return .ahead negated body

mutual
/-- Alternatives, up to the end of the pattern or of the group. `outermost` says that no group is
open. -/
def alternatives : (bound : Nat) → (verbose outermost : Bool) → Reading Node
  | 0, _, _ => throw .tooDeep
  | bound + 1, verbose, outermost => do
    let first ← sequence bound verbose outermost
    let others ← moreAlternatives bound verbose outermost
    return .ofList (ofAlternatives (first :: others))

def moreAlternatives : (bound : Nat) → (verbose outermost : Bool) → Reading (List (List Node))
  | 0, _, _ => throw .tooDeep
  | bound + 1, verbose, outermost => do
    if ← accept '|' then
      let switches := (← get).switches
      let verbose := if outermost then switches.verbose else verbose
      let items ← sequence bound verbose false
      return items :: (← moreAlternatives bound verbose outermost)
    else return []

def sequence : (bound : Nat) → (verbose first : Bool) → Reading (List Node)
  | 0, _, _ => throw .tooDeep
  | bound + 1, verbose, first => do
    let items ← itemsFrom bound verbose first []
    return items.reverse.flatMap Node.dissolved

def itemsFrom : (bound : Nat) → (verbose first : Bool) → List Node → Reading (List Node)
  | 0, _, _, _ => throw .tooDeep
  | bound + 1, verbose, first, items => do
    match (← get).next with
    | none | some (.plain '|') | some (.plain ')') => return items
    | some token =>
      let start := (← get).place
      advance
      match token with
      | .escaped c => itemsFrom bound verbose first ((← escape c) :: items)
      | .plain c =>
        if verbose && isLayout c then itemsFrom bound verbose first items
        else if verbose && c == '#' then
          skipLine (← remaining)
          itemsFrom bound verbose first items
        else
          match c with
          | '.' => itemsFrom bound verbose first (.any :: items)
          | '^' => itemsFrom bound verbose first (.anchor .lineStart :: items)
          | '$' => itemsFrom bound verbose first (.anchor .lineEnd :: items)
          | '[' =>
            let negated ← accept '^'
            let members ← classItems start (← remaining) []
            itemsFrom bound verbose first (classNode negated members :: items)
          | '?' | '*' | '+' | '\x7b' =>
            match ← repetitionCounts c with
            | none => itemsFrom bound verbose first (.code c.toNat :: items)
            | some (least, most) =>
              itemsFrom bound verbose first (← repeatLast items start least most)
          | '(' =>
            match ← opening start with
            | .nothing => itemsFrom bound verbose first items
            | .node node => itemsFrom bound verbose first (node :: items)
            | .wholeSwitches =>
              if !first || !items.isEmpty then throw (.fault ⟨.lateSwitches, some start⟩)
              let switches := (← get).switches
              itemsFrom bound switches.verbose first items
            | .around behind negated =>
              let outer := (← get).lookBehindFrom
              if behind && outer.isNone then
                modify fun reader => { reader with lookBehindFrom := some reader.groupCount }
              let body ← alternatives bound verbose false
              if behind && outer.isNone then
                modify fun reader => { reader with lookBehindFrom := none }
              expectClosing start
              itemsFrom bound verbose first ((← lookAround behind negated body) :: items)
            | .condition =>
              let number ← conditionGroup (← name ')' "group name")
              checkLookBehind number
              let present ← sequence bound verbose false
              let absent ←
                if ← accept '|' then
                  let absent ← sequence bound verbose false
                  if (← get).next == some (.plain '|') then complain .moreThanTwoBranches 0
                  pure absent
                else pure []
              expectClosing start
              let node := .ifGroup number (.ofList present) (.ofList absent)
              itemsFrom bound verbose first (node :: items)
            | .group called captures atomic added removed =>
              let number ← if captures then pure (some (← openGroup called)) else pure none
              let inner := (verbose || added.verbose) && !removed.verbose
              let body ← alternatives bound inner false
              expectClosing start
              match number with
              | some number => closeGroup number body
              | none => pure ()
              let node := if atomic then .atomic body else .group number added removed body
              itemsFrom bound verbose first (node :: items)
          | _ => itemsFrom bound verbose first (.code c.toNat :: items)
end

/-! ## Whole patterns -/

/-- A pattern as read: its tree, the switches it is matched under, and the least number of
characters that it matches. -/
structure Read where
  node : Node
  switches : Switches
  leastWidth : Nat

/-- Read a whole pattern. A closing parenthesis that is left over is a fault, and so is a condition
on a group that does not exist. -/
def whole : Reading Read := do
  advance
  let bound := 4 * (← remaining) + 4
  let node ← alternatives bound false true
  let reader ← get
  if reader.switches.ascii && reader.switches.unicode then obstruct .clashingAlphabets
  if reader.next.isSome then complain .unbalanced 0
  match reader.conditions.find? fun condition => reader.groupCount ≤ condition.1 with
  | some (number, place) => throw (.fault ⟨.noSuchGroup number, some place⟩)
  | none => pure ()
  return { node := node, switches := reader.switches, leastWidth := (← widthOf node).least }

def read (pattern : List Char) : Except Problem Read :=
  (whole.run { next := none, rest := pattern, index := 0, switches := { dotAll := true } }).map
    Prod.fst

end Pattern

end GuardedSteps
