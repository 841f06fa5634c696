import GuardedSteps.Guard.Fields
import GuardedSteps.Proofs.Run.Made
import GuardedSteps.Proofs.Run.Outcome

/-!
Chains of texts can be run. Each guard of a text carries the parameters that its kind needs and no
others, and behind the last one stands the guard that runs the step. Whatever the action does, no run
of such a chain comes to a guard of an unknown kind, neither at once nor behind a delay.
-/

namespace GuardedSteps

/-! ## Guards with the parameters of their kinds -/

def Rule.kind? : Rule → Option Kind
  | .passthrough => some .passthrough
  | .conditionalSkip _ => some .conditionalSkip
  | .invert => some .invert
  | .delay _ => some .asyncDelay
  | .within _ => some .withinTimeout
  | .during _ => some .duringDuration
  | .expect _ => some .expectException
  | .unknown _ => none

/-- Parameters that a guard of the kind needs, within their bounds, and no others. -/
inductive Kind.Needs : Kind → Spare → Prop
  | passthrough : Needs .passthrough {}
  | invert : Needs .invert {}
  | conditionalSkip (condition : String) : Needs .conditionalSkip { condition := some condition }
  | asyncDelay {millis : Nat} (bounded : millis ≤ maxMillis) : Needs .asyncDelay { millis := some millis }
  | withinTimeout {millis : Nat} (bounded : millis ≤ maxMillis) :
    Needs .withinTimeout { millis := some millis }
  | duringDuration {millis : Nat} (bounded : millis ≤ maxMillis) :
    Needs .duringDuration { millis := some millis }
  | expectException (type : ErrorType) : Needs .expectException { expected := some type }

namespace Guard

def parameters (guard : Guard) : Spare := ⟨guard.condition?, guard.millis?, guard.expected?⟩

/-- The guard is what its kind makes of its parameters, which are those that the kind needs. -/
def Complete (guard : Guard) : Prop :=
  ∃ kind, guard.rule.kind? = some kind ∧ kind.Needs guard.parameters ∧
    ofKind kind guard.parameters = .ok guard

theorem complete_always : always.Complete := ⟨.passthrough, rfl, .passthrough, rfl⟩

theorem complete_of_denotes {resolve : Resolver} {phrase : Phrase} {guard : Guard}
    (denotes : Denotes resolve phrase guard) : guard.Complete := by
  cases denotes with
  | condition clause => exact ⟨.conditionalSkip, rfl, .conditionalSkip _, rfl⟩
  | inversion => exact ⟨.invert, rfl, .invert, rfl⟩
  | @timed timing digits readable bounded =>
      cases timing with
      | after => exact ⟨.asyncDelay, rfl, .asyncDelay bounded, rfl⟩
      | within => exact ⟨.withinTimeout, rfl, .withinTimeout bounded, rfl⟩
      | during => exact ⟨.duringDuration, rfl, .duringDuration bounded, rfl⟩
  | expectation resolved => exact ⟨.expectException, rfl, .expectException _, rfl⟩

/-! ## Answers that are no error types -/

theorem parsePhrase_of_answer {resolve : Resolver} {article : Article} {typeName : List Char}
    {candidate : Candidate} (formed : (Phrase.expectation article typeName).Formed)
    (answer : resolve (String.ofList typeName) = .ok candidate)
    (noType : ∀ type, candidate ≠ .errorType type) :
    ∃ details, parsePhrase resolve (Phrase.expectation article typeName).words =
      .error (.invalidGuard (String.ofList (Phrase.expectation article typeName).words) details) := by
  rw [parsePhrase_words resolve formed]
  simp only [ruleOf, answer]
  cases candidate with
  | errorType type => exact absurd rfl (noType type)
  | valueType name => exact ⟨_, rfl⟩
  | other => exact ⟨_, rfl⟩
  | nothing => exact ⟨_, rfl⟩

/-! ## Whole texts -/

/-- Whatever a text and a resolver are: if the text has a chain, each guard of the chain carries what
its kind needs and nothing else, and the last one runs the step. The chain and all that stands behind
some of its guards can be run: a run raises nothing but signals of its action, a complaint about an
unknown kind comes out of it only if the action made it, and a delayed step does not crash. If the
resolver answers to a name of the text with something that is no error type, the text has no chain, and
the phrase is reported unless a later one is. -/
theorem parse_runnable (resolve : Resolver) (text : List Char) :
    (∀ chain, parse resolve text = .ok chain →
      (∃ guards, chain = guards ++ [always]) ∧ (∀ guard ∈ chain, guard.Complete) ∧
      ∀ (T A M : Type) [ClockTime T] rules, rules <:+ chain.map (·.rule) →
        (∀ bound (perform : Effect (World T A M) Unit) action world ended after,
          evaluate bound perform action rules world = some (ended, after) →
            Result.EndsMade perform.Raises ended ∧
            ∀ failure kind, Result.Carries ended failure → failure.origin = .unknownKind kind →
              ∃ own, perform.Raises own ∧ own.origin = .unknownKind kind) ∧
        (∀ bound (actions : Actions T A M) delayed world ended after, delayed.rules = rules →
          World.runDelayed bound actions delayed world = some (ended, after) →
            World.Uncrashed bound actions delayed world ended after)) ∧
    (∀ left article typeName right candidate,
      (Phrase.extract text).phrases = left ++ .expectation article typeName :: right →
      resolve (String.ofList typeName) = .ok candidate → (∀ type, candidate ≠ .errorType type) →
      (∀ chain, parse resolve text ≠ .ok chain) ∧
      ((∀ later ∈ right, ∃ guard, parsePhrase resolve later.words = .ok guard) →
        ∃ failure details, parse resolve text = .error failure ∧ failure.type = .parseError ∧
          failure = .invalidGuard (String.ofList (Phrase.expectation article typeName).words) details)) := by
  constructor
  · intro chain parsed
    have validated : chain.Validated :=
      forall_mem_of_parse (fun _ _ => validated_of_denotes) validated_always parsed
    have known := validated.known
    refine ⟨?_, forall_mem_of_parse (fun _ _ => complete_of_denotes) complete_always parsed, ?_⟩
    · rcases parse_eq_ok_iff.mp parsed with ⟨guards, _, same⟩
      exact ⟨guards, same⟩
    · intro T A M clock rules behind
      have behindKnown : ∀ rule ∈ rules, ∀ kind, rule ≠ .unknown kind := fun rule member =>
        known rule (behind.subset member)
      constructor
      · intro bound perform action world ended after ran
        have ends := evaluate_endsMade bound perform action behindKnown ran
        exact ⟨ends, fun failure kind carries => (ends.made_of_carries carries).exists_source⟩
      · rintro bound actions delayed world ended after rfl ran
        exact World.uncrashed_of_runDelayed behindKnown ran
  · intro left article typeName right candidate split answer noType
    have formed : (Phrase.expectation article typeName).Formed :=
      formed_of_mem_extract (by rw [split]; simp)
    rcases parsePhrase_of_answer formed answer noType with ⟨details, unfit⟩
    constructor
    · intro chain parsed
      rcases parsePhrase_ok_of_mem parsed (.expectation article typeName) (by rw [split]; simp) with
        ⟨guard, fit⟩
      cases unfit.symm.trans fit
    · intro fine
      refine ⟨_, details, ?_, rfl, rfl⟩
      rw [parse, split]
      exact parsePhrases_eq_error unfit fine left

theorem parse_runnable_osError :
    (∀ guard ∈ [⟨.within 50, {}⟩, ⟨.expect .osError, {}⟩, always], guard.Complete) ∧
    ∃ failure, parse (fun _ => .ok .nothing) "within 50ms an OSError is thrown when we go".toList =
      .error failure ∧ failure.type = .parseError := by
  have phrases : (Phrase.extract "within 50ms an OSError is thrown when we go".toList).phrases =
      [.timed .within "50".toList] ++ [.expectation .an "OSError".toList] := by decide +kernel
  constructor
  · have parsed : parse (fun _ => .ok (.errorType .osError))
        "within 50ms an OSError is thrown when we go".toList =
        .ok [⟨.within 50, {}⟩, ⟨.expect .osError, {}⟩, always] := by
      rw [parse_eq_ok_iff, phrases]
      exact ⟨[⟨.within 50, {}⟩, ⟨.expect .osError, {}⟩],
        .cons (.timed (by decide) (by decide)) (.cons (.expectation rfl) .nil), rfl⟩
    exact ((parse_runnable _ _).1 _ parsed).2.1
  · have refused := (parse_runnable (fun _ => .ok .nothing) _).2 _ _ _ [] .nothing phrases rfl (by simp)
    rcases refused.2 nofun with ⟨failure, _, failed, type, _⟩
    exact ⟨failure, failed, type⟩

end Guard

end GuardedSteps
