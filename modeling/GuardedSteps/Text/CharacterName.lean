import GuardedSteps.Text.CharacterName.Alias
import GuardedSteps.Text.CharacterName.Alphabets
import GuardedSteps.Text.CharacterName.Antiquity
import GuardedSteps.Text.CharacterName.EastAsia
import GuardedSteps.Text.CharacterName.Hangul
import GuardedSteps.Text.CharacterName.Hieroglyphs
import GuardedSteps.Text.CharacterName.Notations
import GuardedSteps.Text.CharacterName.Pictures
import GuardedSteps.Text.CharacterName.Signs
import GuardedSteps.Text.CharacterName.Symbols
import GuardedSteps.Text.Affix
import GuardedSteps.Text.Blank
import GuardedSteps.Text.Hexadecimal

/-!
Characters by their names. Most names stand in tables and are found in either letter case. The names
of unified ideographs and of Hangul syllables follow from their code points; these are found in
capitals only.
-/

namespace GuardedSteps

namespace Text

namespace CharacterName

def unifiedIdeographRanges : List (Nat × Nat) :=
  [(0x3400, 0x4dbf), (0x4e00, 0x9fff), (0x20000, 0x2a6df), (0x2a700, 0x2b738), (0x2b740, 0x2b81d),
    (0x2b820, 0x2cea1), (0x2ceb0, 0x2ebe0), (0x30000, 0x3134a)]

def unifiedIdeograph? (digits : List Char) : Option Nat :=
  let code := hexNumber digits
  if (digits.length = 4 ∨ digits.length = 5) ∧ digits.all isCapitalHexDigit ∧
      inRanges unifiedIdeographRanges code then some code
  else none

def numberedFamilies : List (String × List (Nat × Nat)) := [
  ("CJK COMPATIBILITY IDEOGRAPH-", [(0xf900, 0xfa6d), (0xfa70, 0xfad9), (0x2f800, 0x2fa1d)]),
  ("KHITAN SMALL SCRIPT CHARACTER-", [(0x18b00, 0x18cd5)]),
  ("NUSHU CHARACTER-", [(0x1b170, 0x1b2fb)])]

def codeLength (code : Nat) : Nat := if code < 0x10000 then 4 else 5

def numbered? (name : List Char) : Option Nat :=
  numberedFamilies.findSome? fun (lead, ranges) => do
    let digits ← after? lead.toList name
    let code := hexNumber digits
    if digits.all isCapitalHexDigit && digits.length == codeLength code && inRanges ranges code then
      some code
    else none

def variationSelector? : List Char → Option Nat
  | 'V' :: 'S' :: digits@(first :: _) =>
    let number := digits.foldl (fun value c => 10 * value + (c.toNat - 48)) 0
    if first == '0' || !digits.all isAsciiDigit || 3 < digits.length || 256 < number then none
    else if number ≤ 16 then some (0xfdff + number)
    else some (0xe00ef + number)
  | _ => none

def nameRuns : List (List NameRun) :=
  [alphabets, signs, symbols, eastAsia, antiquity, hieroglyphs, notations, pictures]

def listed? (name : List Char) : Option Nat :=
  let wanted := nameWords name
  nameRuns.findSome? fun runs => runs.findSome? (·.find? wanted)

end CharacterName

open CharacterName in
def characterNamed? (name : List Char) : Option Nat :=
  match after? "HANGUL SYLLABLE ".toList name, after? "CJK UNIFIED IDEOGRAPH-".toList name with
  | some syllable, _ => hangulSyllable? syllable
  | none, some digits => unifiedIdeograph? digits
  | none, none =>
    let name := name.map Char.toUpper
    (aliases.lookup (String.ofList name)).orElse fun _ =>
      (variationSelector? name).orElse fun _ => (numbered? name).orElse fun _ => listed? name

end Text

end GuardedSteps
