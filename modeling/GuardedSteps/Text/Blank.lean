/-!
Blank characters, and text trimmed of them. Blank are the white space of the Unicode character
database together with the four information separators; both the scanner and the trimming of
operands use this one class.
-/

namespace GuardedSteps

namespace Text

/-! A character is tested by its code point against a short list of ranges. -/

def blankRanges : List (Nat × Nat) :=
  [(0x9, 0xd), (0x1c, 0x20), (0x85, 0x85), (0xa0, 0xa0), (0x1680, 0x1680), (0x2000, 0x200a),
    (0x2028, 0x2029), (0x202f, 0x202f), (0x205f, 0x205f), (0x3000, 0x3000)]

def inRanges (ranges : List (Nat × Nat)) (code : Nat) : Bool :=
  ranges.any fun range => range.1 ≤ code && code ≤ range.2

def isBlank (c : Char) : Bool := inRanges blankRanges c.toNat

theorem isBlank_of_isWhitespace {c : Char} (white : c.isWhitespace = true) : isBlank c = true := by
  simp only [Char.isWhitespace, Bool.or_eq_true, decide_eq_true_eq] at white
  rcases white with ((rfl | rfl) | rfl) | rfl <;> decide

/-- White space around a written whole number; unlike blanks, the separators of information are no
part of it. -/
def isSpace (c : Char) : Bool := isBlank c && !(0x1c ≤ c.toNat && c.toNat ≤ 0x1f)

example : (blankRanges.map fun range => range.2 + 1 - range.1).sum = 29 := rfl

/-- Whether the characters start at a boundary: there are none, or the first is blank. -/
def startsBlank : List Char → Bool
  | [] => true
  | c :: _ => isBlank c

def wordSpan (cs : List Char) : List Char × List Char :=
  (cs.takeWhile (!isBlank ·), cs.dropWhile (!isBlank ·))

/-! ## Trimming -/

def trimStart (cs : List Char) : List Char := cs.dropWhile isBlank

def trimEnd (cs : List Char) : List Char := (cs.reverse.dropWhile isBlank).reverse

def trim (cs : List Char) : List Char := trimEnd (trimStart cs)

example : trim [' ', 'a', ' ', 'b', '\n'] = ['a', ' ', 'b'] := by decide

def trimSpaces (cs : List Char) : List Char :=
  ((cs.dropWhile isSpace).reverse.dropWhile isSpace).reverse

def trimmed (s : String) : String := String.ofList (trim s.toList)

end Text

end GuardedSteps
