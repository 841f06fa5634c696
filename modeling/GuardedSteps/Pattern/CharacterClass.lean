import GuardedSteps.Pattern.Escape

/-!
Classes of characters between brackets: single members, ranges, and escapes that stand for a class.
-/

namespace GuardedSteps

namespace Pattern

open Text

def classMember : Token → Reading ClassItem
  | .escaped c => classEscape c
  | .plain c => return .code c.toNat

/-- The members of a class up to the closing bracket. A closing bracket that comes first is a
member. `start` is the place of the opening bracket. -/
def classItems (start : Nat) : (bound : Nat) → List ClassItem → Reading (List ClassItem)
  | 0, _ => throw .tooDeep
  | bound + 1, items => do
    match ← take with
    | none => throw (.fault ⟨.unterminatedSet, some start⟩)
    | some this =>
      if this == .plain ']' && !items.isEmpty then return items
      let first ← classMember this
      if ← accept '-' then
        match ← take with
        | none => throw (.fault ⟨.unterminatedSet, some start⟩)
        | some (.plain ']') => return items ++ [first, .code '-'.toNat]
        | some that =>
          let last ← classMember that
          let written := this.chars ++ '-' :: that.chars
          match first, last with
          | .code low, .code high =>
            if high < low then complain (.badRange (String.ofList written)) written.length
            classItems start bound (items ++ [.range low high])
          | _, _ => complain (.badRange (String.ofList written)) written.length
      else classItems start bound (items ++ [first])

def classNode (negated : Bool) (items : List ClassItem) : Node :=
  match items.eraseDups with
  | [.code value] => if negated then .notCode value else .code value
  | items => .oneOf negated items

end Pattern

end GuardedSteps
