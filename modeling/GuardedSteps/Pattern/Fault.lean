import GuardedSteps.Number.Reading
import GuardedSteps.Pattern.Syntax
import GuardedSteps.Text.Quoted

/-!
What can be wrong with a written pattern, and where. A fault is shown with its place, and with the
line and the column when the pattern has several lines. A pattern without a fault can still be beyond
use, for a reason that has no place in it.
-/

namespace GuardedSteps

namespace Pattern

inductive Complaint
  | escapeAtEnd
  | incompleteEscape (escape : String)
  | octalBeyondByte (escape : String)
  | badEscape (escape : String)
  | noOpeningBrace
  | missing (what : String)
  | unterminatedName (terminator : Char)
  | unknownCharacterName (name : String)
  | openGroup
  | groupOfSameLookBehind
  | noSuchGroup (number : Nat)
  | unterminatedSet
  | badRange (range : String)
  | leastAboveMost
  | nothingToRepeat
  | repeatedRepetition
  | endOfPattern
  | badGroupName (name : String)
  | unknownGroupName (name : String)
  | unknownExtension (extension : String)
  | unterminatedComment
  | unterminatedGroup
  | zeroGroup
  | moreThanTwoBranches
  | lateSwitches
  | groupNameTwice (name : String) (number earlier : Nat)
  | unbalanced
  | localeSwitch
  | clashingSwitches
  | unknownSwitch
  | globalSwitchOn
  | classSwitchOff
  | globalSwitchOff
  | switchOnAndOff
  | variableLookBehind
  | repetitionInTemplate (mode : Mode)
  deriving DecidableEq, Repr

def Mode.word : Mode → String
  | .greedy => "MAX_REPEAT"
  | .lazy => "MIN_REPEAT"
  | .possessive => "POSSESSIVE_REPEAT"

def Complaint.message : Complaint → String
  | .escapeAtEnd => "bad escape (end of pattern)"
  | .incompleteEscape escape => "incomplete escape " ++ escape
  | .octalBeyondByte escape =>
    "octal escape value " ++ escape ++ " outside of range 0-0o377"
  | .badEscape escape => "bad escape " ++ escape
  | .noOpeningBrace => "missing \x7b"
  | .missing what => "missing " ++ what
  | .unterminatedName terminator =>
    "missing " ++ String.ofList [terminator] ++ ", unterminated name"
  | .unknownCharacterName name => "undefined character name " ++ Text.quoted name
  | .openGroup => "cannot refer to an open group"
  | .groupOfSameLookBehind =>
    "cannot refer to group defined in the same lookbehind subpattern"
  | .noSuchGroup number => "invalid group reference " ++ Nat.repr number
  | .unterminatedSet => "unterminated character set"
  | .badRange range => "bad character range " ++ range
  | .leastAboveMost => "min repeat greater than max repeat"
  | .nothingToRepeat => "nothing to repeat"
  | .repeatedRepetition => "multiple repeat"
  | .endOfPattern => "unexpected end of pattern"
  | .badGroupName name => "bad character in group name " ++ Text.quoted name
  | .unknownGroupName name => "unknown group name " ++ Text.quoted name
  | .unknownExtension extension => "unknown extension " ++ extension
  | .unterminatedComment => "missing ), unterminated comment"
  | .unterminatedGroup => "missing ), unterminated subpattern"
  | .zeroGroup => "bad group number"
  | .moreThanTwoBranches => "conditional backref with more than two branches"
  | .lateSwitches => "global flags not at the start of the expression"
  | .groupNameTwice name number earlier =>
    "redefinition of group name " ++ Text.quoted name ++ " as group " ++ Nat.repr number ++
      "; was group " ++ Nat.repr earlier
  | .unbalanced => "unbalanced parenthesis"
  | .localeSwitch => "bad inline flags: cannot use 'L' flag with a str pattern"
  | .clashingSwitches => "bad inline flags: flags 'a', 'u' and 'L' are incompatible"
  | .unknownSwitch => "unknown flag"
  | .globalSwitchOn => "bad inline flags: cannot turn on global flag"
  | .classSwitchOff => "bad inline flags: cannot turn off flags 'a', 'u' and 'L'"
  | .globalSwitchOff => "bad inline flags: cannot turn off global flag"
  | .switchOnAndOff => "bad inline flags: flag turned on and off"
  | .variableLookBehind => "look-behind requires fixed-width pattern"
  | .repetitionInTemplate mode => "internal: unsupported template operator " ++ mode.word

/-- A complaint about a pattern, with the number of characters before the place it is about. -/
structure Fault where
  complaint : Complaint
  place : Option Nat
  deriving DecidableEq, Repr

def lineAndColumn (pattern : List Char) (place : Nat) : Nat × Nat :=
  let before := pattern.take place
  (before.count '\n' + 1, (before.reverse.takeWhile (· != '\n')).length + 1)

def Fault.message (fault : Fault) (pattern : String) : String :=
  match fault.place with
  | none => fault.complaint.message
  | some place =>
    let plain := fault.complaint.message ++ " at position " ++ Nat.repr place
    if pattern.toList.contains '\n' then
      let (line, column) := lineAndColumn pattern.toList place
      plain ++ " (line " ++ Nat.repr line ++ ", column " ++ Nat.repr column ++ ")"
    else plain

example : Fault.message ⟨.nothingToRepeat, some 2⟩ "a\n*" =
    "nothing to repeat at position 2 (line 2, column 1)" := by decide +kernel

/-! ## Obstacles -/

/-- Why a pattern without a fault cannot be used. -/
inductive Obstacle
  | countTooLarge
  | countTooLong (digits : Nat)
  | characterTooLarge
  | clashingAlphabets
  | lookBehindTooFar
  | crossedGroup
  deriving DecidableEq, Repr

def Obstacle.message : Obstacle → String
  | .countTooLarge => "the repetition number is too large"
  | .countTooLong digits => (Number.IntegerFault.tooManyDigits digits).message
  | .characterTooLarge => "Python int too large to convert to C int"
  | .clashingAlphabets => "ASCII and UNICODE flags are incompatible"
  | .lookBehindTooFar => "invalid SRE code"
  | .crossedGroup => "The span of capturing group is wrong, please report a bug for the re module."

inductive Problem
  | fault (fault : Fault)
  | obstacle (obstacle : Obstacle)
  | tooDeep
  deriving DecidableEq, Repr

end Pattern

end GuardedSteps
