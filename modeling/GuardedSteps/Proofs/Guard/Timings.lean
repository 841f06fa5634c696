import GuardedSteps.CommandLine.Run
import GuardedSteps.Proofs.Guard.Phrases
import GuardedSteps.Proofs.Number.Form

/-!
The timings of a text. A timing is no guard for one of two reasons: its digits are too many to be
read at all, which is not told as a fault of the text, or they write more milliseconds than a guard
can wait. A text that names no error type fails for no other reason. The last timing that is no guard
decides how it fails: reading and checking the text stall when the digits of that one are too many,
and otherwise the text is refused with one message.
-/

namespace GuardedSteps

namespace Phrase

def IsUnreadable : Phrase → Prop
  | .timed _ digits => Number.maxDigits < digits.length
  | _ => False

def IsExcessive : Phrase → Prop
  | .timed _ digits => maxMillis < Text.digitsValue digits
  | _ => False

/-- The last timing that is no guard has too many digits to be read. -/
def Stalled (phrases : List Phrase) : Prop :=
  ∃ left phrase right, phrases = left ++ phrase :: right ∧ phrase.IsUnreadable ∧
    ∀ later ∈ right, ¬ later.IsUnreadable ∧ ¬ later.IsExcessive

theorem phrases_extract_words {phrase : Phrase} (settled : phrase.Settled) :
    (extract phrase.words).phrases = [phrase] := by
  have all : ∀ only ∈ [phrase], only.Settled := by simpa using settled
  simpa using phrases_extract_joined all

end Phrase

namespace Guard

open Text

/-! ## One phrase -/

/-- How a phrase that names no error type is no guard. -/
inductive Refuses : Phrase → Failure → Prop
  | unreadable {timing : Timing} {digits : List Char} (long : Number.maxDigits < digits.length) :
      Refuses (.timed timing digits) (.millis (.tooManyDigits digits.length))
  | excessive {timing : Timing} {digits : List Char} (readable : digits.length ≤ Number.maxDigits)
      (above : maxMillis < digitsValue digits) :
      Refuses (.timed timing digits)
        (.invalidGuard (String.ofList (Phrase.timed timing digits).words)
          [⟨.above maxMillis, ["millis"]⟩])

variable {resolve : Resolver} {phrase : Phrase} {failure : Failure}

theorem parsePhrase_of_refuses (formed : phrase.Formed) (refused : Refuses phrase failure) :
    parsePhrase resolve phrase.words = .error failure := by
  rw [parsePhrase_words resolve formed]
  cases refused with
  | unreadable long =>
      rcases formed with ⟨someDigit, decimal⟩
      rw [ruleOf, Number.readInteger_digits someDigit decimal, if_pos long]
      rfl
  | @excessive timing digits readable above =>
      rcases formed with ⟨someDigit, decimal⟩
      have outOfRange : Validation.boundedMillis (digitsValue digits) = .error (.above maxMillis) := by
        rw [Validation.boundedMillis, if_neg (Int.not_lt.mpr (Int.natCast_nonneg _)),
          if_pos (Int.ofNat_lt.mpr above)]
      rw [ruleOf, Number.readInteger_digits someDigit decimal, if_neg (Nat.not_lt.mpr readable)]
      simp only [outOfRange]
      rfl

theorem exists_refuses_iff :
    (∃ failure, Refuses phrase failure) ↔ phrase.IsUnreadable ∨ phrase.IsExcessive := by
  constructor
  · rintro ⟨failure, refused⟩
    cases refused with
    | unreadable long => exact .inl long
    | excessive readable above => exact .inr above
  · intro unfit
    cases phrase with
    | timed timing digits =>
        by_cases long : Number.maxDigits < digits.length
        · exact ⟨_, .unreadable long⟩
        · exact ⟨_, .excessive (Nat.le_of_not_lt long) (unfit.resolve_left long)⟩
    | _ => rcases unfit with ⟨⟨⟩⟩ | ⟨⟨⟩⟩

/-- A phrase that names no error type is a guard unless it is refused. -/
theorem exists_denotes_or_refuses (resolve : Resolver) (unnamed : phrase.typeName? = none) :
    (∃ guard, Denotes resolve phrase guard) ∨ ∃ failure, Refuses phrase failure := by
  cases phrase with
  | condition clause => exact .inl ⟨_, .condition clause⟩
  | inversion => exact .inl ⟨_, .inversion⟩
  | timed timing digits =>
      by_cases unfit : (Phrase.timed timing digits).IsUnreadable ∨ (Phrase.timed timing digits).IsExcessive
      · exact .inr (exists_refuses_iff.mpr unfit)
      · rcases not_or.mp unfit with ⟨readable, bounded⟩
        exact .inl ⟨_, .timed (Nat.le_of_not_lt readable) (Nat.le_of_not_lt bounded)⟩
  | expectation article typeName => cases unnamed

theorem parsePhrase_eq_error_iff (formed : phrase.Formed) (unnamed : phrase.typeName? = none) :
    parsePhrase resolve phrase.words = .error failure ↔ Refuses phrase failure := by
  constructor
  · intro failed
    rcases exists_denotes_or_refuses resolve unnamed with ⟨guard, denoted⟩ | ⟨other, refused⟩
    · cases failed.symm.trans ((parsePhrase_eq_ok_iff formed).mpr denoted)
    · cases failed.symm.trans (parsePhrase_of_refuses formed refused)
      exact refused
  · exact parsePhrase_of_refuses formed

theorem exists_parsePhrase_ok_iff (formed : phrase.Formed) (unnamed : phrase.typeName? = none) :
    (∃ guard, parsePhrase resolve phrase.words = .ok guard) ↔
      ¬ phrase.IsUnreadable ∧ ¬ phrase.IsExcessive := by
  rw [← not_or, ← exists_refuses_iff]
  constructor
  · rintro ⟨guard, fit⟩ ⟨failure, refused⟩
    cases fit.symm.trans (parsePhrase_of_refuses formed refused)
  · intro accepted
    rcases exists_denotes_or_refuses resolve unnamed with ⟨guard, denoted⟩ | refused
    · exact ⟨guard, (parsePhrase_eq_ok_iff formed).mpr denoted⟩
    · exact absurd refused accepted

/-! ## Whole texts -/

variable {text : List Char}

theorem parse_eq_error_iff
    (unnamed : ∀ phrase ∈ (Phrase.extract text).phrases, phrase.typeName? = none) :
    parse resolve text = .error failure ↔
      ∃ left phrase right, (Phrase.extract text).phrases = left ++ phrase :: right ∧
        Refuses phrase failure ∧ ∀ later ∈ right, ¬ later.IsUnreadable ∧ ¬ later.IsExcessive := by
  have formed : ∀ phrase ∈ (Phrase.extract text).phrases, phrase.Formed :=
    fun _ => formed_of_mem_extract
  rw [parse]
  generalize (Phrase.extract text).phrases = phrases at unnamed formed
  constructor
  · intro failed
    rcases exists_last_failing failed with ⟨left, phrase, right, rfl, unfit, fine⟩
    refine ⟨left, phrase, right, rfl, ?_, ?_⟩
    · exact (parsePhrase_eq_error_iff (formed phrase (by simp)) (unnamed phrase (by simp))).mp unfit
    · intro later member
      have inside : later ∈ left ++ phrase :: right := by simp [member]
      exact (exists_parsePhrase_ok_iff (formed later inside) (unnamed later inside)).mp
        (fine later member)
  · rintro ⟨left, phrase, right, rfl, refused, fine⟩
    apply parsePhrases_eq_error (parsePhrase_of_refuses (formed phrase (by simp)) refused)
    intro later member
    have inside : later ∈ left ++ phrase :: right := by simp [member]
    exact (exists_parsePhrase_ok_iff (formed later inside) (unnamed later inside)).mpr
      (fine later member)

theorem stalled_iff (resolve : Resolver)
    (unnamed : ∀ phrase ∈ (Phrase.extract text).phrases, phrase.typeName? = none) :
    Phrase.Stalled (Phrase.extract text).phrases ↔
      ∃ count, parse resolve text = .error (.millis (.tooManyDigits count)) := by
  constructor
  · rintro ⟨left, phrase, right, split, unreadable, fine⟩
    cases phrase with
    | timed timing digits =>
        exact ⟨digits.length, (parse_eq_error_iff unnamed).mpr
          ⟨left, _, right, split, .unreadable unreadable, fine⟩⟩
    | _ => cases unreadable
  · rintro ⟨count, failed⟩
    rcases (parse_eq_error_iff unnamed).mp failed with ⟨left, phrase, right, split, ⟨long⟩, fine⟩
    exact ⟨left, _, right, split, long, fine⟩

/-- A text that does not stall has a chain, or an excessive timing to blame. -/
theorem parse_of_not_stalled (resolve : Resolver)
    (unnamed : ∀ phrase ∈ (Phrase.extract text).phrases, phrase.typeName? = none)
    (fluent : ¬ Phrase.Stalled (Phrase.extract text).phrases) :
    ((∃ chain, parse resolve text = .ok chain) ∧
      ∀ phrase ∈ (Phrase.extract text).phrases, ¬ phrase.IsExcessive) ∨
    ∃ phrase ∈ (Phrase.extract text).phrases, phrase.IsExcessive ∧
      parse resolve text =
        .error (.invalidGuard (String.ofList phrase.words) [⟨.above maxMillis, ["millis"]⟩]) := by
  cases parsed : parse resolve text with
  | ok chain =>
      refine .inl ⟨⟨chain, rfl⟩, ?_⟩
      intro phrase member
      have fit := parsePhrase_ok_of_mem parsed phrase member
      exact ((exists_parsePhrase_ok_iff (formed_of_mem_extract member) (unnamed phrase member)).mp
        fit).2
  | error failure =>
      rcases (parse_eq_error_iff unnamed).mp parsed with ⟨left, phrase, right, split, refused, fine⟩
      cases refused with
      | unreadable long => exact absurd ⟨left, _, right, split, long, fine⟩ fluent
      | @excessive timing digits readable above =>
          exact .inr ⟨.timed timing digits, by simp [split], above, rfl⟩

theorem parseError_iff_of_not_stalled (resolve : Resolver)
    (unnamed : ∀ phrase ∈ (Phrase.extract text).phrases, phrase.typeName? = none)
    (fluent : ¬ Phrase.Stalled (Phrase.extract text).phrases) :
    ((∃ chain, parse resolve text = .ok chain) ∨
      ∃ failure, parse resolve text = .error failure ∧ failure.type = .parseError) ∧
    ((∃ failure, parse resolve text = .error failure ∧ failure.type = .parseError) ↔
      ∃ phrase ∈ (Phrase.extract text).phrases, phrase.IsExcessive) := by
  rcases parse_of_not_stalled resolve unnamed fluent with
    ⟨⟨chain, parsed⟩, modest⟩ | ⟨phrase, member, above, failed⟩
  · refine ⟨.inl ⟨chain, parsed⟩, ?_, ?_⟩
    · rintro ⟨failure, failed, _⟩
      cases parsed.symm.trans failed
    · rintro ⟨phrase, member, above⟩
      exact absurd above (modest phrase member)
  · have refused : ∃ failure, parse resolve text = .error failure ∧ failure.type = .parseError :=
      ⟨_, failed, rfl⟩
    exact ⟨.inr refused, fun _ => ⟨phrase, member, above⟩, fun _ => refused⟩

theorem stalled_iff_valueError (resolve : Resolver)
    (unnamed : ∀ phrase ∈ (Phrase.extract text).phrases, phrase.typeName? = none) :
    Phrase.Stalled (Phrase.extract text).phrases ↔
      ∃ failure, parse resolve text = .error failure ∧ failure.type = .valueError := by
  constructor
  · intro stalled
    rcases (stalled_iff resolve unnamed).mp stalled with ⟨count, failed⟩
    exact ⟨_, failed, rfl⟩
  · rintro ⟨failure, failed, ofValue⟩
    by_contra fluent
    have distinct : ErrorType.valueError ≠ .parseError := by decide
    rcases (parseError_iff_of_not_stalled resolve unnamed fluent).1 with
      ⟨chain, parsed⟩ | ⟨other, refused, ofText⟩
    · cases parsed.symm.trans failed
    · cases refused.symm.trans failed
      exact distinct (ofValue.symm.trans ofText)

/-! ## Timings in zeros -/

theorem formed_zeros (timing : Timing) {count : Nat} (someDigit : 0 < count) :
    (Phrase.timed timing (List.replicate count '0')).Formed := by
  have decimal : isDecimal '0' = true := by decide
  constructor
  · simp [Nat.ne_of_gt someDigit]
  · simp [decimal]

theorem parse_unreadable (resolve : Resolver) {timing : Timing} {digits : List Char}
    (formed : (Phrase.timed timing digits).Formed) (long : Number.maxDigits < digits.length) :
    (Phrase.extract (Phrase.timed timing digits).words).phrases = [.timed timing digits] ∧
      parse resolve (Phrase.timed timing digits).words =
        .error (.millis (.tooManyDigits digits.length)) := by
  have found := Phrase.phrases_extract_words (Phrase.settled_timed formed)
  refine ⟨found, (parse_eq_error_iff ?_).mpr ?_⟩
  · rw [found]
    simp [Phrase.typeName?]
  · exact ⟨[], _, [], found, .unreadable long, by simp⟩

end Guard

/-! ## Checking a text -/

namespace CommandLine

variable (remarks : Failure.Remarks) {arguments : List String} {text : String}

theorem read_lint : read ["--lint"] = .lint := by decide +kernel

theorem run_lint_of_ok {chain : Chain} (asked : read arguments = .lint)
    (parsed : Guard.parse (Registry.resolver []) text.toList = .ok chain) :
    runWith remarks arguments text = .ok ⟨some 0, ""⟩ := by
  simp only [runWith, asked, lint, chainOf, parsed]
  rfl

theorem run_lint_of_told {failure : Failure} (asked : read arguments = .lint)
    (failed : Guard.parse (Registry.resolver []) text.toList = .error failure)
    (told : failure.type.isA .guardError = true) :
    runWith remarks arguments text =
      .ok ⟨some 0, "error: " ++ failure.messageWith remarks ++ "\n"⟩ := by
  simp only [runWith, asked, lint, chainOf, failed, if_pos told]
  rfl

theorem run_lint_of_untold {failure : Failure} (asked : read arguments = .lint)
    (failed : Guard.parse (Registry.resolver []) text.toList = .error failure)
    (untold : failure.type.isA .guardError = false) :
    runWith remarks arguments text = .error failure := by
  simp [runWith, asked, lint, chainOf, failed, untold]
  rfl

theorem run_lint_of_not_stalled (asked : read arguments = .lint)
    (unnamed : ∀ phrase ∈ (Phrase.extract text.toList).phrases, phrase.typeName? = none)
    (fluent : ¬ Phrase.Stalled (Phrase.extract text.toList).phrases) :
    runWith remarks arguments text = .ok ⟨some 0, ""⟩ ∨
      ∃ phrase ∈ (Phrase.extract text.toList).phrases, phrase.IsExcessive ∧
        runWith remarks arguments text = .ok
          ⟨some 0, "error: " ++ Failure.remarked ("Invalid guard '" ++ String.ofList phrase.words ++ "'")
            (remarks.fields [⟨.above maxMillis, ["millis"]⟩]) ++ "\n"⟩ := by
  have told : ErrorType.parseError.isA .guardError = true := by decide
  rcases Guard.parse_of_not_stalled (Registry.resolver []) unnamed fluent with
    ⟨⟨chain, parsed⟩, _⟩ | ⟨phrase, member, above, failed⟩
  · exact .inl (run_lint_of_ok remarks asked parsed)
  · exact .inr ⟨phrase, member, above, run_lint_of_told remarks asked failed told⟩

theorem run_lint_of_stalled (asked : read arguments = .lint)
    (unnamed : ∀ phrase ∈ (Phrase.extract text.toList).phrases, phrase.typeName? = none)
    (stalled : Phrase.Stalled (Phrase.extract text.toList).phrases) :
    ∃ count, runWith remarks arguments text = .error (.millis (.tooManyDigits count)) := by
  have untold : ErrorType.valueError.isA .guardError = false := by decide
  rcases (Guard.stalled_iff (Registry.resolver []) unnamed).mp stalled with ⟨count, failed⟩
  exact ⟨count, run_lint_of_untold remarks asked failed untold⟩

/-- Checking a text that names no error type. Unless the text stalls, it is read as a chain or refused
as a text that cannot be read, and it is refused exactly when the digits of some timing are excessive;
the check then ends the program with code zero and has printed nothing, or one message that blames
such a timing, with what the checks of fields remark. A text that stalls is neither read nor refused: its digits come out as the fault of a
value, of the reading and of the check alike, and nothing else does. -/
theorem run_lint_of_unnamed (resolve : Resolver) (asked : read arguments = .lint)
    (unnamed : ∀ phrase ∈ (Phrase.extract text.toList).phrases, phrase.typeName? = none) :
    (¬ Phrase.Stalled (Phrase.extract text.toList).phrases →
      ((∃ chain, Guard.parse resolve text.toList = .ok chain) ∨
        ∃ failure, Guard.parse resolve text.toList = .error failure ∧ failure.type = .parseError) ∧
      ((∃ failure, Guard.parse resolve text.toList = .error failure ∧ failure.type = .parseError) ↔
        ∃ phrase ∈ (Phrase.extract text.toList).phrases, phrase.IsExcessive) ∧
      (runWith remarks arguments text = .ok ⟨some 0, ""⟩ ∨
        ∃ phrase ∈ (Phrase.extract text.toList).phrases, phrase.IsExcessive ∧
          runWith remarks arguments text = .ok
            ⟨some 0, "error: " ++ Failure.remarked ("Invalid guard '" ++ String.ofList phrase.words ++ "'")
              (remarks.fields [⟨.above maxMillis, ["millis"]⟩]) ++ "\n"⟩)) ∧
    (Phrase.Stalled (Phrase.extract text.toList).phrases ↔
      ∃ failure, Guard.parse resolve text.toList = .error failure ∧ failure.type = .valueError) ∧
    (Phrase.Stalled (Phrase.extract text.toList).phrases ↔
      ∃ failure, runWith remarks arguments text = .error failure) := by
  refine ⟨?_, Guard.stalled_iff_valueError resolve unnamed, ?_⟩
  · intro fluent
    have parsing := Guard.parseError_iff_of_not_stalled resolve unnamed fluent
    exact ⟨parsing.1, parsing.2, run_lint_of_not_stalled remarks asked unnamed fluent⟩
  · constructor
    · intro stalled
      rcases run_lint_of_stalled remarks asked unnamed stalled with ⟨count, failed⟩
      exact ⟨_, failed⟩
    · rintro ⟨failure, failed⟩
      by_contra fluent
      rcases run_lint_of_not_stalled remarks asked unnamed fluent with ended | ⟨_, _, _, ended⟩
      · cases ended.symm.trans failed
      · cases ended.symm.trans failed

theorem run_lint_longWait :
    let text := "within 99999999999999ms if a b => after 7ms we go"
    read ["--lint"] = .lint ∧
    (∀ phrase ∈ (Phrase.extract text.toList).phrases, phrase.typeName? = none) ∧
    ¬ Phrase.Stalled (Phrase.extract text.toList).phrases ∧
    (∃ failure, Guard.parse (Registry.resolver []) text.toList = .error failure ∧
      failure.type = .parseError) := by
  intro text
  have found : (Phrase.extract text.toList).phrases =
      [.timed .within (List.replicate 14 '9'), .condition "a b".toList, .timed .after ['7']] := by
    decide +kernel
  have unnamed : ∀ phrase ∈ (Phrase.extract text.toList).phrases, phrase.typeName? = none := by
    rw [found]
    decide
  have excessive : (Phrase.timed .within (List.replicate 14 '9')).IsExcessive := by
    change maxMillis < Text.digitsValue (List.replicate 14 '9')
    decide +kernel
  have fluent : ¬ Phrase.Stalled (Phrase.extract text.toList).phrases := by
    rintro ⟨left, phrase, right, split, unreadable, _⟩
    have member : phrase ∈ (Phrase.extract text.toList).phrases := by simp [split]
    rw [found] at member
    simp only [List.mem_cons, List.not_mem_nil, or_false] at member
    rcases member with rfl | rfl | rfl
    · simp [Phrase.IsUnreadable, Number.maxDigits] at unreadable
    · exact unreadable
    · simp [Phrase.IsUnreadable, Number.maxDigits] at unreadable
  refine ⟨read_lint, unnamed, fluent, ?_⟩
  apply ((run_lint_of_unnamed .silent (Registry.resolver []) read_lint unnamed).1 fluent).2.1.mpr
  exact ⟨_, by simp [found], excessive⟩

/-- A wait of no time that is written with 4301 zeros is in range, but stops the reading and the check
with the fault of a value. -/
theorem not_run_lint_zeros :
    let digits := List.replicate 4301 '0'
    let text := String.ofList (Phrase.timed .after digits).words
    read ["--lint"] = .lint ∧
    (Phrase.extract text.toList).phrases = [.timed .after digits] ∧
    Text.digitsValue digits ≤ maxMillis ∧
    ∃ failure, Guard.parse (Registry.resolver []) text.toList = .error failure ∧
      failure.type ≠ .parseError ∧ run ["--lint"] text = .error failure := by
  intro digits text
  have unreadable : Number.maxDigits < digits.length := by
    rw [List.length_replicate]
    decide
  have written : text.toList = (Phrase.timed .after digits).words := String.toList_ofList
  rcases Guard.parse_unreadable (Registry.resolver []) (Guard.formed_zeros .after (by decide))
    unreadable with ⟨found, failed⟩
  rw [← written] at found failed
  have worthless : Text.digitsValue digits ≤ maxMillis := by
    rw [Number.digitsValue_replicate]
    exact Nat.zero_le maxMillis
  have distinct : ErrorType.valueError ≠ .parseError := by decide
  have untold : ErrorType.valueError.isA .guardError = false := by decide
  have stopped := run_lint_of_untold .silent read_lint failed untold
  exact ⟨read_lint, found, worthless, _, failed, distinct, stopped⟩

end CommandLine

end GuardedSteps
