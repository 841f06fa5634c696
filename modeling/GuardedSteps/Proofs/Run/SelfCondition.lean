import GuardedSteps.Proofs.Comparison.Flag
import GuardedSteps.Proofs.Number.ReadBack
import GuardedSteps.Proofs.Run.Conjunction
import GuardedSteps.Proofs.Template

/-!
Variables that are compared with themselves. A condition that compares what a path leads to with the
template of the same path is met: the plain text of the value is put into the flag, taken out again, and
compared with the value, as the number that it writes or as the text that it is. Nothing that the text
contains is looked at on the way.
-/

namespace GuardedSteps

open Text

namespace Comparison

/-! ## Values and their plain texts -/

theorem exists_readFloat_of_asNumber {value : Value} {text : String} {x : Float}
    (plain : value.asText = .ok text) (measured : value.asNumber = .ok (some x))
    (number : x.isNaN = false) :
    ∃ y, Number.readFloat text.toList = some y ∧ (x == y) = true := by
  have same := Number.beq_of_unpack_eq number rfl
  have shown : text = value.plain := by
    unfold Value.asText at plain
    split at plain <;> cases plain
    rfl
  subst shown
  cases value with
  | integer whole =>
      rw [Value.asNumber] at measured
      split at measured <;> cases measured
      next found => exact ⟨x, Number.readFloat_integerText found, same⟩
  | double own =>
      cases measured
      exact Number.readFloat_floatText number
  | text own =>
      have read : Number.readFloat own.toList = some x := Except.ok.inj measured
      exact ⟨x, read, same⟩
  | null => cases measured
  | flag => cases measured
  | bytes => cases measured
  | collection => cases measured
  | mapping => cases measured
  | object => cases measured

/-- A value is equal to its plain text, if it is no number or can be compared as one. -/
theorem isEqual_plain {value : Value} {text : String} {number? : Option Float}
    (plain : value.asText = .ok text) (measured : value.asNumber = .ok number?)
    (number : ∀ x ∈ number?, x.isNaN = false) (readable : number?.isSome = true ∨ trimmed text = text) :
    isEqual value (.text (trimmed text)) = .ok true := by
  have operand : Value.asNumber (.text (trimmed text)) = .ok (Number.readFloat text.toList) := by
    rw [Value.asNumber, trimmed, String.toList_ofList, Number.readFloat_trim]
  have own : Value.asText (.text (trimmed text)) = .ok (trimmed text) := rfl
  cases number? with
  | some x =>
      rcases exists_readFloat_of_asNumber plain measured (number x rfl) with ⟨y, read, same⟩
      rw [read] at operand
      unfold isEqual numbers?
      rw [measured, operand]
      exact congrArg Except.ok same
  | none =>
      have kept : trimmed text = text := readable.resolve_left (by simp)
      unfold isEqual numbers?
      rw [measured, operand, plain, own]
      change Except.ok (text == trimmed (trimmed text)) = _
      rw [kept, kept, beq_self_eq_true]

/-! ## Flags with an operand -/

def equality : String := "== "

theorem toList_equality : equality.toList = ['=', '=', ' '] := by simp [equality]

theorem operation?_equality (text : String) :
    operation? (equality ++ text) = some (.equal, trimmed text) := by
  have written : (equality ++ text).toList = Operator.word .equal ++ ' ' :: text.toList := by
    simp [toList_equality, Operator.word]
  exact operation?_eq_of_word (by decide) written

/-- A value meets the flag that asks for its own plain text, whatever this contains. -/
theorem meets_equality {value : Value} {text : String} {number? : Option Float}
    (plain : value.asText = .ok text) (measured : value.asNumber = .ok number?)
    (number : ∀ x ∈ number?, x.isNaN = false) (readable : number?.isSome = true ∨ trimmed text = text) :
    meets value (.text ("?" ++ (equality ++ text))) = .ok () := by
  have satisfied : satisfies value (equality ++ text) = .ok true := by
    rw [satisfies, operation?_equality]
    exact isEqual_plain plain measured number readable
  rw [meets, meetsText, flag?_bare]
  simp only [satisfied]
  rfl

end Comparison

namespace Condition

/-! ## Conditions without a joint -/

theorem conjuncts_of_apart {cs : List Char}
    (apart : cs.IsChain fun first second => first = '&' → second ≠ '&') : conjuncts cs = [cs] := by
  fun_induction conjuncts cs with
  | case1 => rfl
  | case2 cs induction => exact absurd rfl ((List.isChain_cons_cons.mp apart).1 rfl)
  | case3 c cs other first more split induction =>
      cases split.symm.trans (induction apart.tail)
      rfl
  | case4 c cs other empty induction => cases empty.symm.trans (induction apart.tail)

theorem isChain_of_not_infix {cs : List Char} (single : ¬ ['&', '&'] <:+: cs) :
    cs.IsChain fun first second => first = '&' → second ≠ '&' := by
  induction cs with
  | nil => exact .nil
  | cons c rest induction =>
      cases rest with
      | nil => exact .singleton c
      | cons d rest =>
          refine List.isChain_cons_cons.mpr ⟨?_, induction fun inside => single (List.infix_cons inside)⟩
          rintro rfl rfl
          exact single ⟨[], rest, rfl⟩

/-! ## A path and its template -/

/-- A path that can stand as a subject and inside the braces of a template. -/
structure PlainPath (path : String) : Prop where
  nonempty : path.toList ≠ []
  solid : ∀ c ∈ path.toList, isBlank c = false
  plain : ∀ c ∈ path.toList, Template.isBrace c = false
  single : ¬ ['&', '&'] <:+: path.toList

def selfTemplate (path : String) : String := Comparison.equality ++ "\x7b\x7b" ++ path ++ "\x7d\x7d"

/-- The condition that compares a path with the template of the same path. -/
def selfCondition (path : String) : String := path ++ " " ++ selfTemplate path

theorem toList_selfTemplate (path : String) : (selfTemplate path).toList =
    '=' :: '=' :: ' ' :: (Template.opening ++ (path.toList ++ Template.closing)) := by
  simp [selfTemplate, Comparison.equality, Template.opening, Template.closing]

theorem toList_selfCondition (path : String) :
    (selfCondition path).toList = path.toList ++ ' ' :: (selfTemplate path).toList := by
  simp [selfCondition]

section

variable {path : String} (isPath : PlainPath path)

include isPath

theorem resolveFlag_selfTemplate {bindings : Variables} {value : Value} {text : String}
    (leads : bindings.getOrSelf path = .ok value) (plain : value.asText = .ok text) :
    Template.resolveFlag bindings (selfTemplate path) = .ok (Comparison.equality ++ text) := by
  have formed : ∀ part ∈ [Template.Part.literal Comparison.equality.toList, .placeholder [] path.toList []],
      part.Formed := by
    have solid (c : Char) (member : c ∈ path.toList) := isPath.solid c member
    have placeholder : (Template.Part.placeholder [] path.toList []).Formed :=
      .placeholder nofun nofun isPath.nonempty isPath.plain
        (fun c first => solid c (List.mem_of_mem_head? first))
        fun c last => solid c (List.mem_of_mem_getLast? last)
    have literal : (Template.Part.literal Comparison.equality.toList).Formed := by
      rw [Comparison.toList_equality]
      exact .literal (by simp [Template.isBrace])
    simp [literal, placeholder]
  have filled : List.Forall₂ (Template.Part.FilledAs bindings)
      [.literal Comparison.equality.toList, .placeholder [] path.toList []]
      [Comparison.equality.toList, text.toList] :=
    .cons (.literal _) (.cons (.placeholder (by rwa [String.ofList_toList]) plain) .nil)
  have written : [Template.Part.literal Comparison.equality.toList,
      .placeholder [] path.toList []].flatMap Template.Part.text = (selfTemplate path).toList := by
    simp [Template.Part.text, toList_selfTemplate, Comparison.toList_equality]
  have whole := Template.fill_written formed filled
  rw [written] at whole
  have several : Template.whole? (selfTemplate path).toList = none := by
    have solid : isBlank '=' = false := by decide
    rcases exists_trim_cons solid with ⟨others, kept⟩
    rw [toList_selfTemplate, Template.whole?, kept, Template.placeholder?_cons (by decide)]
  have joined : String.ofList [Comparison.equality.toList, text.toList].flatten =
      Comparison.equality ++ text := by simp
  have stands := Template.resolve_of_fill several whole
  rw [String.ofList_toList, joined] at stands
  exact Template.resolveFlag_of_resolve stands rfl

theorem clause?_selfCondition :
    clause? (selfCondition path).toList = some (path, selfTemplate path) := by
  have solid : ∀ c ∈ path.toList, (!isBlank c) = true := fun c member => by simp [isPath.solid c member]
  have blank : isBlank ' ' = true := by decide
  have span : wordSpan (selfCondition path).toList = (path.toList, ' ' :: (selfTemplate path).toList) := by
    rw [toList_selfCondition, wordSpan, List.takeWhile_append_of_pos solid, List.dropWhile_append_of_pos solid]
    simp [blank]
  rcases List.exists_cons_of_ne_nil isPath.nonempty with ⟨first, others, word⟩
  have subject : String.ofList (first :: others) = path := by rw [← word, String.ofList_toList]
  have template : String.ofList ('=' :: '=' :: ' ' :: (Template.opening ++ (path.toList ++
      Template.closing))) = selfTemplate path := by rw [← toList_selfTemplate, String.ofList_toList]
  rw [word, toList_selfTemplate] at span
  rw [clause?, span]
  exact congrArg some (Prod.ext subject template)

theorem trim_selfCondition : trim (selfCondition path).toList = (selfCondition path).toList := by
  apply trim_eq_self
  · intro c first
    rw [toList_selfCondition, List.head?_append_of_ne_nil _ isPath.nonempty] at first
    exact isPath.solid c (List.mem_of_mem_head? first)
  · intro c last
    have closed : (selfCondition path).toList =
        path.toList ++ ' ' :: '=' :: '=' :: ' ' :: (Template.opening ++ (path.toList ++ ['\x7d'])) ++
          ['\x7d'] := by
      simp [toList_selfCondition, toList_selfTemplate, Template.closing]
    rw [closed, List.getLast?_concat] at last
    cases last
    decide

theorem conjuncts_selfCondition : conjuncts (selfCondition path).toList = [(selfCondition path).toList] := by
  have apart := isChain_of_not_infix isPath.single
  apply conjuncts_of_apart
  rw [toList_selfCondition, toList_selfTemplate]
  simp [List.isChain_append, List.isChain_cons, Template.opening, Template.closing, apart]

theorem check_selfCondition {bindings : Variables} {value : Value} {text : String} {number? : Option Float}
    (leads : bindings.getOrSelf path = .ok value) (plain : value.asText = .ok text)
    (measured : value.asNumber = .ok number?) (number : ∀ x ∈ number?, x.isNaN = false)
    (readable : number?.isSome = true ∨ trimmed text = text) :
    check bindings (selfCondition path) = .met := by
  have flag := resolveFlag_selfTemplate isPath leads plain
  have met := Comparison.meets_equality plain measured number readable
  have held : holds bindings path (selfTemplate path) = .ok () := by
    rw [holds_of_resolved leads flag, met]
    rfl
  rw [check, conjuncts_selfCondition isPath, checkClauses, trim_selfCondition isPath,
    clause?_selfCondition isPath]
  simp only [held]
  rfl

end

end Condition

variable {T A M : Type} [ClockTime T]

/-- A variable equals itself through its template. A condition that compares a path with the template of
the path lets the run go on as if it were not there, whatever the text of the value contains, as long as
the value has a text and, if it is a number, is a number among the doubles; what is no number must not
have blanks around its text. -/
theorem evaluate_selfCondition (bound : Nat) (perform : Effect (World T A M) Unit) (action : A)
    (rest : List Rule) {path : String} (isPath : Condition.PlainPath path) {world : World T A M}
    {value : Value} {text : String} {number? : Option Float}
    (leads : world.bindings.getOrSelf path = .ok value) (plain : value.asText = .ok text)
    (measured : value.asNumber = .ok number?) (number : ∀ x ∈ number?, x.isNaN = false)
    (readable : number?.isSome = true ∨ trimmed text = text) :
    evaluate bound perform action (.conditionalSkip (Condition.selfCondition path) :: rest) world =
      evaluate bound perform action rest world := by
  simp only [evaluate, Condition.check_selfCondition isPath leads plain measured number readable]

theorem evaluate_selfCondition_failing :
    evaluate 0 failing () [.conditionalSkip (Condition.selfCondition "user")]
        { startingWorld with bindings := [("user", .text "?!= \x7b\x7buser\x7d\x7d &&\nnot")] } =
      evaluate 0 failing () []
        { startingWorld with bindings := [("user", .text "?!= \x7b\x7buser\x7d\x7d &&\nnot")] } ∧
    evaluate 0 failing () [.conditionalSkip (Condition.selfCondition "rate")]
        { startingWorld with bindings := [("rate", .double 0.1)] } =
      evaluate 0 failing () [] { startingWorld with bindings := [("rate", .double 0.1)] } := by
  have solid : ∀ path ∈ ["user", "rate"], path.toList.all (fun c => !isBlank c) = true := by
    decide +kernel
  have plain : ∀ path ∈ ["user", "rate"], path.toList.all (fun c => !Template.isBrace c) = true := by
    decide +kernel
  have isPath {path : String} (member : path ∈ ["user", "rate"]) (nonempty : path.toList ≠ [])
      (single : ¬ ['&', '&'] <:+: path.toList) : Condition.PlainPath path :=
    ⟨nonempty, by simpa using solid path member, by simpa using plain path member, single⟩
  have unread : Value.asNumber (.text "?!= \x7b\x7buser\x7d\x7d &&\nnot") = .ok none := rfl
  constructor
  · exact evaluate_selfCondition 0 failing () [] (isPath (by simp) (by decide) (by decide +kernel)) rfl rfl
      unread nofun (.inr (by decide +kernel))
  · exact evaluate_selfCondition 0 failing () [] (isPath (by simp) (by decide) (by decide +kernel)) rfl rfl
      rfl (fun x member => by cases member; decide +kernel) (.inl rfl)

end GuardedSteps
