import GuardedSteps.Pattern.CharacterTest
import GuardedSteps.Pattern.Fault
import GuardedSteps.Pattern.Width

/-!
Programs: patterns made ready for matching. The switches are worked into the tests, repetitions of
one character are told from those of longer bodies, and groups are marks of their start and end. Some
faults of a pattern come to light only here.
-/

namespace GuardedSteps

namespace Pattern

inductive Program
  | done
  | one (test : CharacterTest)
  | anchor (place : Anchor) (switches : Switches)
  | mark (index : Nat)
  | sequence (first second : Program)
  | choice (first second : Program)
  | never
  | row (mode : Mode) (least : Nat) (most : Option Nat) (test : CharacterTest)
  | loop (mode : Mode) (least : Nat) (most : Option Nat) (body : Program)
  | atomic (body : Program)
  /-- The text from some characters back on has to match, or must not. -/
  | look (negated : Bool) (back : Nat) (body : Program)
  | back (group : Nat) (folding : Folding)
  | ifGroup (group : Nat) (present absent : Program)

def startMark (group : Nat) : Nat := 2 * (group - 1)

def Program.lead? : Program → Option Lead
  | .done => none
  | .one test => some test.lead
  | .sequence first second =>
    match first.lead? with
    | some lead => some lead
    | none => second.lead?
  | _ => some .other

/-- The program of a node. Faults are found from the left to the right, and that of a node before
those of its body. -/
def Node.program (switches : Switches) : Node → Except Problem Program
  | .empty => .ok .done
  | .code value => .ok (.one (codeTest switches value false))
  | .notCode value => .ok (.one (codeTest switches value true))
  | .any => .ok (.one { admits := fun c => switches.dotAll || c != '\n' })
  | .oneOf negated items => .ok (.one (classTest switches negated items))
  | .anchor place => .ok (.anchor place switches)
  | .sequence first second => do
    return .sequence (← first.program switches) (← second.program switches)
  | .choice first second => do
    return .choice (← first.program switches) (← second.program switches)
  | .never => .ok .never
  | .group number added removed body => do
    let inner ← body.program (switches.inside added removed)
    match number with
    | none => return inner
    | some number =>
      return .sequence (.mark (startMark number)) (.sequence inner (.mark (startMark number + 1)))
  | .repetition mode least most body => do
    if switches.template then throw (.fault ⟨.repetitionInTemplate mode, none⟩)
    match body.test? switches with
    | some test => return .row mode least most test
    | none => return .loop mode least most (← body.program switches)
  | .atomic body => do return .atomic (← body.program switches)
  | .ahead negated body => do return .look negated 0 (← body.program switches)
  | .behind negated least greatest body => do
    if least != greatest then throw (.fault ⟨.variableLookBehind, none⟩)
    return .look negated least (← body.program switches)
  | .back number => .ok (.back number switches.folding)
  | .ifGroup number present absent => do
    return .ifGroup number (← present.program switches) (← absent.program switches)

def lookBehindLimit : Nat := 2147483648

def Program.looksTooFar : Program → Bool
  | .look _ width body => lookBehindLimit ≤ width || body.looksTooFar
  | .sequence first second | .choice first second | .ifGroup _ first second =>
    first.looksTooFar || second.looksTooFar
  | .loop _ _ _ body | .atomic body => body.looksTooFar
  | _ => false

end Pattern

end GuardedSteps
