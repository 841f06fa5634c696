import GuardedSteps.ErrorType.Resolve
import GuardedSteps.Failure
import Mathlib.Data.List.TakeWhile

/-!
The ends of resolution. Whatever a library and a registry hold, a name is resolved to the error type that
it stands for, or it fails with the one type of error that is made for it: unless the name is bound nowhere
before its last dot is looked at, and starts with a dot. Then the module that would be looked up has no
name or a relative one.
-/

namespace GuardedSteps

/-! ## Types that are errors at all -/

def ErrorType.IsRooted (type : ErrorType) : Prop := type.isA .baseException = true

instance (type : ErrorType) : Decidable type.IsRooted :=
  inferInstanceAs (Decidable (type.isA .baseException = true))

namespace Resolution

/-! ## The last dot -/

theorem splitLast_eq_none_iff {cs : List Char} : splitLast cs = none ↔ '.' ∉ cs := by
  unfold splitLast
  split
  · next none =>
    have undotted := List.dropWhile_eq_nil_iff.mp none
    simpa using fun member => undotted '.' (List.mem_reverse.mpr member)
  · next dot before dropped =>
    have outside : ¬ ∀ c ∈ cs.reverse, (c != '.') = true := by
      rw [← List.dropWhile_eq_nil_iff, dropped]
      exact List.cons_ne_nil dot before
    simp only [reduceCtorEq, false_iff, not_not]
    simpa using outside

theorem splitLast_eq_some_iff {cs home last : List Char} :
    splitLast cs = some (home, last) ↔ cs = home ++ '.' :: last ∧ '.' ∉ last := by
  constructor
  · intro split
    have whole := List.takeWhile_append_dropWhile (p := (· != '.')) (l := cs.reverse)
    have front := List.head?_dropWhile_not (p := (· != '.')) (l := cs.reverse)
    unfold splitLast at split
    split at split
    · cases split
    · next dot before dropped =>
      cases split
      rw [dropped] at whole front
      have isDot : dot = '.' := by simpa using front
      constructor
      · simpa [isDot] using (congrArg List.reverse whole).symm
      · intro member
        simpa using List.mem_takeWhile_imp (List.mem_reverse.mp member)
  · rintro ⟨rfl, undotted⟩
    have solid : ∀ c ∈ last.reverse, (c != '.') = true := by
      intro c member
      rw [bne_iff_ne]
      rintro rfl
      exact undotted (List.mem_reverse.mp member)
    simp [splitLast, List.dropWhile_append_of_pos solid, List.takeWhile_append_of_pos solid]

/-! ## Names that start with a dot -/

/-- The name is bound neither in the registry nor among the names that need no module, and it starts with
a dot: so there is no name of a module before its last dot. -/
structure Adrift (library : Library) (registry : Registry) (name : String) : Prop where
  unregistered : registry.lookup name = none
  nonstandard : library.standard.find? name = none
  dotted : name.toList.head? = some '.'

instance (library : Library) (registry : Registry) (name : String) :
    Decidable (Adrift library registry name) :=
  decidable_of_iff (registry.lookup name = none ∧ library.standard.find? name = none ∧
      name.toList.head? = some '.')
    ⟨fun ⟨unregistered, nonstandard, dotted⟩ => ⟨unregistered, nonstandard, dotted⟩,
      fun adrift => ⟨adrift.unregistered, adrift.nonstandard, adrift.dotted⟩⟩

example : Adrift Catalog.library [] "..ValueError" ∧
    ¬ Adrift Catalog.library [("..ValueError", .nothing)] "..ValueError" := by decide +kernel

variable {library : Library} {registry : Registry} {name : String}

theorem findDotted_nil (last : String) :
    findDotted library (String.ofList []) last name = .error .emptyModule := rfl

theorem findDotted_dot (rest : List Char) (last : String) :
    findDotted library (String.ofList ('.' :: rest)) last name =
      .error (.relativeModule (String.ofList ('.' :: rest))) := by
  simp [findDotted]

theorem findDotted_of_listed {first : Char} (solid : first ≠ '.') {rest : List Char}
    {entry : ModuleEntry} (listed : library.moduleNamed? (String.ofList (first :: rest)) = some entry)
    (last : String) :
    findDotted library (String.ofList (first :: rest)) last name = .ok (entry.find? last) := by
  have named : (String.ofList (first :: rest)).isEmpty = false := by simp
  have undotted : (String.ofList (first :: rest)).startsWith "." = false := by
    simpa using solid.symm
  simp only [findDotted, named, undotted, Bool.false_eq_true, if_false, listed]

theorem findDotted_of_unlisted {first : Char} (solid : first ≠ '.') {rest : List Char}
    (unlisted : library.moduleNamed? (String.ofList (first :: rest)) = none) (last : String) :
    findDotted library (String.ofList (first :: rest)) last name = .ok none ∨
      ∃ missing, findDotted library (String.ofList (first :: rest)) last name =
        .error (.missingModule (String.ofList (first :: rest)) name missing) := by
  have named : (String.ofList (first :: rest)).isEmpty = false := by simp
  have undotted : (String.ofList (first :: rest)).startsWith "." = false := by
    simpa using solid.symm
  simp only [findDotted, named, undotted, Bool.false_eq_true, if_false, unlisted]
  split
  · exact .inr ⟨_, rfl⟩
  · exact .inl rfl

theorem findDotted_cons {first : Char} (solid : first ≠ '.') (rest : List Char) (last : String) :
    (∃ found, findDotted library (String.ofList (first :: rest)) last name = .ok found) ∨
      ∃ home missing, findDotted library (String.ofList (first :: rest)) last name =
        .error (.missingModule home name missing) := by
  cases listing : library.moduleNamed? (String.ofList (first :: rest)) with
  | some entry => exact .inl ⟨_, findDotted_of_listed solid listing last⟩
  | none =>
      rcases findDotted_of_unlisted solid listing last with nothing | ⟨missing, failed⟩
      · exact .inl ⟨none, nothing⟩
      · exact .inr ⟨_, missing, failed⟩

/-- A name that is not adrift is looked up to the end, or a module is missing. -/
theorem find_of_not_adrift (anchored : ¬ Adrift library registry name) :
    (∃ found, find library registry name = .ok found) ∨
      ∃ home missing, find library registry name = .error (.missingModule home name missing) := by
  unfold find
  split
  · exact .inl ⟨_, rfl⟩
  · exact .inl ⟨_, rfl⟩
  · next home last unregistered nonstandard split =>
    rcases splitLast_eq_some_iff.mp split with ⟨whole, -⟩
    have front : name.toList.head? = (home ++ ['.']).head? := by
      rw [whole]
      cases home <;> rfl
    have solid : (home ++ ['.']).head? ≠ some '.' := fun dotted =>
      anchored ⟨unregistered, nonstandard, front.trans dotted⟩
    cases home with
    | nil => exact absurd rfl solid
    | cons first rest => exact findDotted_cons (by simpa using solid) rest _
  · exact .inl ⟨_, rfl⟩

def relativeFault : (home : List Char) → Fault
  | [] => .emptyModule
  | home => .relativeModule (String.ofList home)

theorem find_of_adrift (adrift : Adrift library registry name) :
    ∃ home last, name.toList = home ++ '.' :: last ∧ '.' ∉ last ∧
      find library registry name = .error (relativeFault home) := by
  have dot : '.' ∈ name.toList := List.mem_of_head? adrift.dotted
  cases split : splitLast name.toList with
  | none => exact absurd dot (splitLast_eq_none_iff.mp split)
  | some parts =>
      rcases parts with ⟨home, last⟩
      rcases splitLast_eq_some_iff.mp split with ⟨whole, undotted⟩
      refine ⟨home, last, whole, undotted, ?_⟩
      have searched : find library registry name =
          findDotted library (String.ofList home) (String.ofList last) name := by
        simp only [find, adrift.unregistered, adrift.nonstandard, split]
      rw [searched]
      cases home with
      | nil => exact findDotted_nil _
      | cons first rest =>
          have front := adrift.dotted
          rw [whole] at front
          cases front
          exact findDotted_dot rest _

/-! ## What names stand for -/

/-- The name is bound to the candidate: in the registry, or else among the names that need no module, or
else in the module whose name stands before its last dot. -/
inductive StandsFor (library : Library) (registry : Registry) (name : String) : Candidate → Prop
  | registered {candidate : Candidate} (bound : registry.lookup name = some candidate) :
      StandsFor library registry name candidate
  | standard {candidate : Candidate} (unregistered : registry.lookup name = none)
      (bound : library.standard.find? name = some candidate) :
      StandsFor library registry name candidate
  | inModule {candidate : Candidate} {first : Char} {rest last : List Char} {entry : ModuleEntry}
      (unregistered : registry.lookup name = none) (nonstandard : library.standard.find? name = none)
      (whole : name.toList = first :: rest ++ '.' :: last) (undotted : '.' ∉ last)
      (solid : first ≠ '.')
      (listed : library.moduleNamed? (String.ofList (first :: rest)) = some entry)
      (bound : entry.find? (String.ofList last) = some candidate) :
      StandsFor library registry name candidate

theorem findDotted_eq_some_iff {home : List Char} {last : String} {candidate : Candidate} :
    findDotted library (String.ofList home) last name = .ok (some candidate) ↔
      ∃ first rest entry, home = first :: rest ∧ first ≠ '.' ∧
        library.moduleNamed? (String.ofList home) = some entry ∧ entry.find? last = some candidate := by
  constructor
  · intro found
    cases home with
    | nil => cases (findDotted_nil last).symm.trans found
    | cons first rest =>
        by_cases dot : first = '.'
        · subst dot
          cases (findDotted_dot rest last).symm.trans found
        · cases listing : library.moduleNamed? (String.ofList (first :: rest)) with
          | some entry =>
              have bound := (findDotted_of_listed dot listing last).symm.trans found
              exact ⟨first, rest, entry, rfl, dot, rfl, Except.ok.inj bound⟩
          | none =>
              rcases findDotted_of_unlisted dot listing last with nothing | ⟨missing, failed⟩
              · cases nothing.symm.trans found
              · cases failed.symm.trans found
  · rintro ⟨first, rest, entry, rfl, solid, listed, bound⟩
    rw [findDotted_of_listed solid listed, bound]

theorem find_eq_some_iff {candidate : Candidate} :
    find library registry name = .ok (some candidate) ↔ StandsFor library registry name candidate := by
  constructor
  · intro found
    unfold find at found
    split at found
    · next bound =>
      cases found
      exact .registered bound
    · next unregistered bound =>
      cases found
      exact .standard unregistered bound
    · next home last unregistered nonstandard split =>
      rcases splitLast_eq_some_iff.mp split with ⟨whole, undotted⟩
      rcases findDotted_eq_some_iff.mp found with ⟨first, rest, entry, rfl, solid, listed, bound⟩
      exact .inModule unregistered nonstandard whole undotted solid listed bound
    · cases found
  · intro stands
    cases stands with
    | registered bound => simp only [find, bound]
    | standard unregistered bound => simp only [find, unregistered, bound]
    | @inModule first rest last entry unregistered nonstandard whole undotted solid listed bound =>
        have split : splitLast name.toList = some (first :: rest, last) :=
          splitLast_eq_some_iff.mpr ⟨whole, undotted⟩
        simp only [find, unregistered, nonstandard, split]
        exact findDotted_eq_some_iff.mpr ⟨first, rest, entry, rfl, solid, listed, bound⟩

/-! ## The ends of resolution -/

/-- The name is resolved to a type whose errors can be raised, or it fails with the one type of error that
is made for names. -/
def Settles (library : Library) (registry : Registry) (name : String) : Prop :=
  (∃ type, resolveIn library registry name = .ok type ∧ type.IsRooted) ∨
    ∃ fault, resolveIn library registry name = .error fault ∧
      (Failure.resolution fault).type = .typeResolutionError

theorem resolveIn_of_error {fault : Fault} (failed : find library registry name = .error fault) :
    resolveIn library registry name = .error fault := by
  rw [resolveIn, failed]
  rfl

theorem resolveIn_of_errorType {type : ErrorType}
    (search : find library registry name = .ok (some (.errorType type))) :
    resolveIn library registry name =
      if type.isA .baseException then .ok type else .error (.notErrorType name) := by
  rw [resolveIn, search]
  rfl

theorem resolveIn_of_found {found : Option Candidate}
    (search : find library registry name = .ok found) :
    (∃ type, found = some (.errorType type) ∧ type.IsRooted ∧
        resolveIn library registry name = .ok type) ∨
      resolveIn library registry name = .error (.notErrorType name) ∨
      resolveIn library registry name = .error (.unknownName name) := by
  match found with
  | some (.errorType type) =>
      have checked := resolveIn_of_errorType search
      by_cases rooted : type.IsRooted
      · exact .inl ⟨type, rfl, rooted, checked.trans (if_pos rooted)⟩
      · exact .inr (.inl (checked.trans (if_neg rooted)))
  | some (.valueType _) | some .other =>
      rw [resolveIn, search]
      exact .inr (.inl rfl)
  | some .nothing | none =>
      rw [resolveIn, search]
      exact .inr (.inr rfl)

/-- A name is resolved exactly to the error type that it stands for, if its errors can be raised. -/
theorem resolveIn_eq_ok_iff {type : ErrorType} : resolveIn library registry name = .ok type ↔
    StandsFor library registry name (.errorType type) ∧ type.IsRooted := by
  rw [← find_eq_some_iff]
  constructor
  · intro resolved
    cases search : find library registry name with
    | error fault => cases (resolveIn_of_error search).symm.trans resolved
    | ok found =>
        rcases resolveIn_of_found search with ⟨other, rfl, rooted, own⟩ | refused | refused
        · cases own.symm.trans resolved
          exact ⟨rfl, rooted⟩
        · cases refused.symm.trans resolved
        · cases refused.symm.trans resolved
  · rintro ⟨search, rooted⟩
    exact (resolveIn_of_errorType search).trans (if_pos rooted)

theorem settles_of_not_adrift (anchored : ¬ Adrift library registry name) :
    Settles library registry name := by
  rcases find_of_not_adrift anchored with ⟨found, search⟩ | ⟨home, missing, failed⟩
  · rcases resolveIn_of_found search with ⟨type, -, rooted, resolved⟩ | refused | refused
    · exact .inl ⟨type, resolved, rooted⟩
    · exact .inr ⟨_, refused, rfl⟩
    · exact .inr ⟨_, refused, rfl⟩
  · exact .inr ⟨_, resolveIn_of_error failed, rfl⟩

theorem resolveIn_of_adrift (adrift : Adrift library registry name) : ∃ home last fault,
    name.toList = home ++ '.' :: last ∧ '.' ∉ last ∧
      resolveIn library registry name = .error fault ∧
      (Failure.resolution fault).type = if home = [] then .valueError else .typeError := by
  rcases find_of_adrift adrift with ⟨home, last, whole, undotted, failed⟩
  refine ⟨home, last, _, whole, undotted, resolveIn_of_error failed, ?_⟩
  cases home <;> rfl

/-- Whatever a library and a registry hold, resolution of a name ends in the error type that the name
stands for or in the one error that is made for it, unless the name is adrift. A name that is adrift
fails with an error of another type. -/
theorem settles_iff (library : Library) (registry : Registry) (name : String) :
    (∀ type, resolveIn library registry name = .ok type ↔
      StandsFor library registry name (.errorType type) ∧ type.IsRooted) ∧
    (Settles library registry name ↔ ¬ Adrift library registry name) ∧
    (Adrift library registry name → ∃ home last fault, name.toList = home ++ '.' :: last ∧
      '.' ∉ last ∧ resolveIn library registry name = .error fault ∧
      (Failure.resolution fault).type = if home = [] then .valueError else .typeError) := by
  refine ⟨fun _ => resolveIn_eq_ok_iff, ⟨?_, settles_of_not_adrift⟩, resolveIn_of_adrift⟩
  intro settles adrift
  rcases resolveIn_of_adrift adrift with ⟨home, last, fault, -, -, failed, other⟩
  rcases settles with ⟨type, resolved, -⟩ | ⟨own, refused, expected⟩
  · cases resolved.symm.trans failed
  · cases refused.symm.trans failed
    rw [expected] at other
    split at other
    · exact absurd other (by decide)
    · exact absurd other (by decide)

example : resolveIn Catalog.library [(".Oops", .errorType .osError)] ".Oops" = .ok .osError := rfl

/-- A name that starts with a dot is no error of resolution. -/
theorem not_settles_relative : ¬ Settles Catalog.library [] ".ValueError" := by
  have failed : resolveIn Catalog.library [] ".ValueError" = .error .emptyModule := rfl
  rintro (⟨type, resolved, -⟩ | ⟨fault, refused, expected⟩)
  · cases resolved.symm.trans failed
  · cases refused.symm.trans failed
    exact absurd expected (by decide)

end Resolution

end GuardedSteps
