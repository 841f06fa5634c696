/-!
Hexadecimal digits, read in either letter case and written in capitals.
-/

namespace GuardedSteps

namespace Text

def isAsciiDigit (c : Char) : Bool := '0' ≤ c && c ≤ '9'

def isCapitalHexDigit (c : Char) : Bool := isAsciiDigit c || ('A' ≤ c && c ≤ 'F')

def isHexDigit (c : Char) : Bool := isCapitalHexDigit c || ('a' ≤ c && c ≤ 'f')

def hexValue (c : Char) : Nat :=
  if isAsciiDigit c then c.toNat - 48 else if c.toNat < 97 then c.toNat - 55 else c.toNat - 87

def hexNumber (cs : List Char) : Nat := cs.foldl (fun value c => 16 * value + hexValue c) 0

example : hexNumber ['1', 'F', 'f'] = 0x1ff := by decide

end Text

end GuardedSteps
