import GuardedSteps.Pattern.Group
import GuardedSteps.Text.CharacterName

/-!
Escapes. What a backslash and the character after it stand for depends on the place: outside a class
they may be an anchor or a reference to a group, inside one they may not.
-/

namespace GuardedSteps

namespace Pattern

open Text

def isOctalDigit (c : Char) : Bool := '0' ≤ c && c ≤ '7'

def octalNumber (cs : List Char) : Nat := cs.foldl (fun value c => 8 * value + (c.toNat - 48)) 0

def controlCode? (c : Char) : Option Nat :=
  match c with
  | 'a' => some 7
  | 'f' => some 12
  | 'n' => some 10
  | 'r' => some 13
  | 't' => some 9
  | 'v' => some 11
  | '\\' => some 92
  | _ => none

def category? (c : Char) : Option ClassItem :=
  match c with
  | 'd' => some (.category .digit false)
  | 'D' => some (.category .digit true)
  | 's' => some (.category .blank false)
  | 'S' => some (.category .blank true)
  | 'w' => some (.category .word false)
  | 'W' => some (.category .word true)
  | _ => none

def anchor? (c : Char) : Option Anchor :=
  match c with
  | 'A' => some .textStart
  | 'b' => some .boundary
  | 'B' => some .notBoundary
  | 'Z' => some .textEnd
  | _ => none

/-- An escape names a code point at most; one beyond this bound is not even read. -/
def escapeLimit : Nat := 2147483648

def hexEscape (c : Char) (width : Nat) : Reading Nat := do
  let digits ← takeWhile isHexDigit width
  let escape := '\\' :: c :: digits
  if digits.length != width then
    complain (.incompleteEscape (String.ofList escape)) escape.length
  let code := hexNumber digits
  if escapeLimit ≤ code then obstruct .characterTooLarge
  if 0x10ffff < code then complain (.badEscape (String.ofList escape)) escape.length
  return code

def namedEscape : Reading Nat := do
  if !(← accept '\x7b') then complain .noOpeningBrace 0
  let called ← name '\x7d' "character name"
  match characterNamed? called with
  | some code => return code
  | none => complain (.unknownCharacterName (String.ofList called)) (called.length + 4)

def commonEscape? (c : Char) : Option (Reading Nat) :=
  match c with
  | 'x' => some (hexEscape 'x' 2)
  | 'u' => some (hexEscape 'u' 4)
  | 'U' => some (hexEscape 'U' 8)
  | 'N' => some namedEscape
  | _ => none

/-- A letter or digit with no meaning cannot be escaped; any other character stands for itself. -/
def plainEscape (c : Char) : Reading Nat :=
  if c.isAlphanum then complain (.badEscape (String.ofList ['\\', c])) 2
  else return c.toNat

def classEscape (c : Char) : Reading ClassItem := do
  match controlCode? c, category? c with
  | some code, _ => return .code code
  | none, some item => return item
  | none, none =>
    if c == 'b' then return .code 8
    match commonEscape? c with
    | some read => return .code (← read)
    | none =>
      if isOctalDigit c then
        let digits := c :: (← takeWhile isOctalDigit 2)
        let code := octalNumber digits
        if 0o377 < code then
          complain (.octalBeyondByte (String.ofList ('\\' :: digits))) (digits.length + 1)
        return .code code
      else return .code (← plainEscape c)

/-! ## References to groups -/

/-- A reference to a group by its number, of which the first digit is taken. Three octal digits
give a character instead. -/
def numberedEscape (c : Char) : Reading Node := do
  let mut digits := [c]
  match (← get).next with
  | some (.plain second) =>
    if isAsciiDigit second then
      advance
      digits := [c, second]
      match (← get).next with
      | some (.plain third) =>
        if isOctalDigit c && isOctalDigit second && isOctalDigit third then
          advance
          let all := [c, second, third]
          let code := octalNumber all
          if 0o377 < code then complain (.octalBeyondByte (String.ofList ('\\' :: all))) 4
          return .code code
      | _ => pure ()
  | _ => pure ()
  let number := digitsValue digits
  let reader ← get
  if number < reader.groupCount then
    if (reader.groupWidth? number).isNone then complain .openGroup (digits.length + 1)
    checkLookBehind number
    return .back number
  else complain (.noSuchGroup number) digits.length

def escape (c : Char) : Reading Node := do
  match category? c, anchor? c, controlCode? c with
  | some item, _, _ => return .oneOf false [item]
  | none, some place, _ => return .anchor place
  | none, none, some code => return .code code
  | none, none, none =>
    match commonEscape? c with
    | some read => return .code (← read)
    | none =>
      if c == '0' then
        return .code (octalNumber (c :: (← takeWhile isOctalDigit 2)))
      else if isAsciiDigit c then numberedEscape c
      else return .code (← plainEscape c)

end Pattern

end GuardedSteps
