import GuardedSteps.Text.Printable

/-!
Quoted text, as messages show it: between quotes, with what cannot be printed written by its code
point. Bytes are quoted in the same way after a `b`.
-/

namespace GuardedSteps

namespace Text

/-! ## Code points in hexadecimal -/

def hexDigit (value : Nat) : Char :=
  if value < 10 then Char.ofNat (48 + value) else Char.ofNat (87 + value)

def hexDigits : (width : Nat) → Nat → List Char
  | 0, _ => []
  | width + 1, value => hexDigits width (value / 16) ++ [hexDigit (value % 16)]

example : hexDigits 4 0x20ac = ['2', '0', 'a', 'c'] := by decide

def escapedCode (code : Nat) : List Char :=
  if code < 0x100 then '\\' :: 'x' :: hexDigits 2 code
  else if code < 0x10000 then '\\' :: 'u' :: hexDigits 4 code
  else '\\' :: 'U' :: hexDigits 8 code

/-! ## Quoting -/

/-- The quote is the single one, unless the text has a single quote and no double one. -/
def quoteFor (cs : List Char) : Char :=
  if cs.contains '\'' && !cs.contains '"' then '"' else '\''

def quotedChar (printable : Char → Bool) (quote c : Char) : List Char :=
  if c == quote || c == '\\' then ['\\', c]
  else if c == '\n' then ['\\', 'n']
  else if c == '\r' then ['\\', 'r']
  else if c == '\t' then ['\\', 't']
  else if printable c then [c]
  else escapedCode c.toNat

def quotedChars (printable : Char → Bool) (cs : List Char) : List Char :=
  quoteFor cs :: cs.flatMap (quotedChar printable (quoteFor cs)) ++ [quoteFor cs]

def quoted (s : String) : String := String.ofList (quotedChars isPrintable s.toList)

example : quotedChars isPrintable ['i', 't', '\'', 's'] = ['"', 'i', 't', '\'', 's', '"'] := by
  decide +kernel

def quotedBytes (bytes : List UInt8) : String :=
  String.ofList ('b' :: quotedChars (fun c => 0x20 ≤ c.toNat && c.toNat < 0x7f)
    (bytes.map fun byte => Char.ofNat byte.toNat))

end Text

end GuardedSteps
