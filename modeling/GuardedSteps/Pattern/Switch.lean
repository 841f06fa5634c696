import GuardedSteps.Pattern.Token
import GuardedSteps.Text.Word

/-!
Switches in a pattern. A group may turn switches on and, after a minus sign, off; without a group
they are turned on for the whole pattern.
-/

namespace GuardedSteps

namespace Pattern

open Text

def switch? (c : Char) : Option Switches :=
  match c with
  | 'i' => some { ignoreCase := true }
  | 'm' => some { multiline := true }
  | 's' => some { dotAll := true }
  | 'x' => some { verbose := true }
  | 'a' => some { ascii := true }
  | 'u' => some { unicode := true }
  | 't' => some { template := true }
  | 'L' => some {}
  | _ => none

def noSwitch (token : Token) (otherwise : String) : Reading α :=
  match token with
  | .plain c => complain (if isLetter c then .unknownSwitch else .missing otherwise) 1
  | .escaped _ => complain (.missing otherwise) 2

def switchesOn : (bound : Nat) → Switches → Char → Reading (Switches × Char)
  | 0, _, _ => throw .tooDeep
  | bound + 1, added, c => do
    if c == 'L' then complain .localeSwitch 0
    let added := added.union ((switch? c).getD {})
    if added.ascii && added.unicode then complain .clashingSwitches 0
    match ← take with
    | none => complain (.missing "-, : or )") 0
    | some token =>
      match token with
      | .plain following =>
        if following == ')' || following == '-' || following == ':' then return (added, following)
        else if (switch? following).isSome then switchesOn bound added following
        else noSwitch token "-, : or )"
      | .escaped _ => noSwitch token "-, : or )"

def switchesOff : (bound : Nat) → Switches → Char → Reading Switches
  | 0, _, _ => throw .tooDeep
  | bound + 1, removed, c => do
    if c == 'a' || c == 'u' || c == 'L' then complain .classSwitchOff 0
    let removed := removed.union ((switch? c).getD {})
    match ← take with
    | none => complain (.missing ":") 0
    | some token =>
      match token with
      | .plain following =>
        if following == ':' then return removed
        else if (switch? following).isSome then switchesOff bound removed following
        else noSwitch token ":"
      | .escaped _ => noSwitch token ":"

/-- The switches after an opening `(?`, of which the first character is taken: nothing when they
hold for the whole pattern, else those turned on and off inside the group. Only a whole pattern is a
template. -/
def switchesIn (c : Char) : Reading (Option (Switches × Switches)) := do
  let bound ← remaining
  let (added, ending) ← if c == '-' then pure ({}, '-') else switchesOn bound {} c
  if ending == ')' then
    modify fun reader => { reader with switches := reader.switches.union added }
    return none
  if added.template then complain .globalSwitchOn 1
  if ending == ':' then return some (added, {})
  match ← take with
  | none => complain (.missing "flag") 0
  | some token =>
    match token with
    | .plain following =>
      if (switch? following).isSome then
        let removed ← switchesOff bound {} following
        if removed.template then complain .globalSwitchOff 1
        if added.meets removed then complain .switchOnAndOff 1
        return some (added, removed)
      else noSwitch token "flag"
    | .escaped _ => noSwitch token "flag"

end Pattern

end GuardedSteps
