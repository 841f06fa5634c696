import GuardedSteps.Text.Digit

/-!
The arguments of the command. Options may be shortened as long as it is clear which one is meant.
There is one subcommand, which takes everything that follows its name.
-/

namespace GuardedSteps

namespace CommandLine

inductive Request
  | lint
  | explain (text : String)
  | help
  | explainHelp
  | nothing
  | invalid
  deriving DecidableEq, Repr

inductive Switch
  | help
  | lint
  deriving DecidableEq, Repr

inductive Word
  | separator
  | plain (text : String)
  | option (option : Switch)
  | faulty
  | ambiguous
  | unknown
  deriving DecidableEq, Repr

abbrev Names := List (List Char × Switch)

def helpNames : Names := [("-h".toList, .help), ("--help".toList, .help)]

def names : Names := helpNames ++ [("--lint".toList, .lint)]

/-! ## The form of an argument -/

def isNegativeNumber (cs : List Char) : Bool :=
  match cs with
  | '-' :: rest =>
    let unsigned := if rest.getLast? == some '\n' then rest.dropLast else rest
    let fraction := unsigned.dropWhile Text.isDecimal
    match fraction with
    | [] => !unsigned.isEmpty
    | '.' :: digits => !digits.isEmpty && digits.all Text.isDecimal
    | _ => false
  | _ => false

/-- A short option with something attached to it. Short options may be written in a row behind one
dash; what is no option ends the row, but nothing may be assigned to an option of the row. -/
def row (names : Names) (option : Switch) : (attachment : List Char) → Word
  | [] => .option option
  | c :: rest =>
    if c == '-' then .faulty
    else match names.lookup ['-', c], rest with
      | some _, '=' :: _ => .faulty
      | some next, rest => row names next rest
      | none, _ => .option option

def shortened (names : Names) (cs : List Char) : Word :=
  let isLong := cs.take 2 == ['-', '-']
  let name := if isLong then cs.takeWhile (· != '=') else cs.take 2
  let attachment := cs.drop name.length
  let candidates := names.filter fun entry =>
    if isLong then name.isPrefixOf entry.1 else name == entry.1
  match candidates with
  | [(_, option)] =>
    if !isLong then row names option attachment
    else if attachment.isEmpty then .option option
    else .faulty
  | _ :: _ => .ambiguous
  | [] => if isNegativeNumber cs || cs.contains ' ' then .plain (String.ofList cs) else .unknown

def word (names : Names) (argument : String) : Word :=
  match argument.toList with
  | ['-', '-'] => .separator
  | ['-'] => .plain argument
  | cs@('-' :: _) =>
    let name := cs.takeWhile (· != '=')
    match names.lookup cs, names.lookup name with
    | some option, _ => .option option
    | none, some _ => .faulty
    | none, none => shortened names cs
  | _ => .plain argument

/-! ## The subcommand -/

def explained (text : Option String) (hasUnknown : Bool) : Request :=
  match text with
  | some text => if hasUnknown then .invalid else .explain text
  | none => .invalid

/-- Reads what follows the name of the subcommand: one text. Help is given as soon as it is asked
for, even if another argument is unknown. -/
def readExplain (text : Option String) (hasUnknown : Bool) : List String → Request
  | [] => explained text hasUnknown
  | argument :: rest =>
    match word helpNames argument, text with
    | .separator, none => explained rest.head? (hasUnknown || rest.length > 1)
    | .separator, some _ => explained text (hasUnknown || rest.length > 0)
    | .plain given, none => readExplain (some given) hasUnknown rest
    | .plain _, some _ => readExplain text true rest
    | .option _, _ => .explainHelp
    | .unknown, _ => readExplain text true rest
    | .faulty, _ | .ambiguous, _ => .invalid

/-! ## The command -/

def readFrom (lint hasUnknown : Bool) : List String → Request
  | [] => if hasUnknown then .invalid else if lint then .lint else .nothing
  | argument :: rest =>
    match word names argument with
    | .plain "explain" =>
      match readExplain none hasUnknown rest with
      | .explain text => if lint then .lint else .explain text
      | other => other
    | .plain _ | .separator | .faulty | .ambiguous => .invalid
    | .option .help => .help
    | .option .lint => readFrom true hasUnknown rest
    | .unknown => readFrom lint true rest

/-- What the arguments ask for. An ambiguous one is refused before any is obeyed. -/
def read (arguments : List String) : Request :=
  let words := (arguments.map (word names)).takeWhile (· != .separator)
  if words.contains .ambiguous then .invalid else readFrom false false arguments

example : read ["--li"] = .lint ∧ read ["explain", "--", "--lint"] = .explain "--lint" ∧
    read ["explain"] = .invalid ∧ read [] = .nothing := by decide +kernel

end CommandLine

end GuardedSteps
