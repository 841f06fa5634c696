/-!
Fixed text at the front or at the back of other text.
-/

namespace GuardedSteps

namespace Text

def after? : (front cs : List Char) → Option (List Char)
  | [], cs => some cs
  | _ :: _, [] => none
  | c :: front, d :: cs => if c = d then after? front cs else none

theorem after?_eq_some_iff {front cs rest : List Char} :
    after? front cs = some rest ↔ cs = front ++ rest := by
  fun_induction after? front cs with
  | case1 => simp [eq_comm]
  | case2 => simp
  | case3 front c cs induction => simpa using induction
  | case4 c front d cs different => simp [Ne.symm different]

@[simp] theorem after?_append (front rest : List Char) : after? front (front ++ rest) = some rest :=
  after?_eq_some_iff.2 rfl

def before? (back cs : List Char) : Option (List Char) :=
  (after? back.reverse cs.reverse).map List.reverse

theorem before?_eq_some_iff {back cs rest : List Char} :
    before? back cs = some rest ↔ cs = rest ++ back := by
  simp only [before?, Option.map_eq_some_iff, after?_eq_some_iff]
  constructor
  · rintro ⟨found, whole, rfl⟩
    simpa using congrArg List.reverse whole
  · rintro rfl
    exact ⟨rest.reverse, by simp, by simp⟩

@[simp] theorem before?_append (rest back : List Char) : before? back (rest ++ back) = some rest :=
  before?_eq_some_iff.2 rfl

example : after? ['i', 'f'] ['i', 'f', 'x'] = some ['x'] ∧ before? ['x'] ['i', 'f', 'x'] = some ['i', 'f'] := by
  decide

end Text

end GuardedSteps
