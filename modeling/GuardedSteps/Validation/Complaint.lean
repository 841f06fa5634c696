import GuardedSteps.Guard.Basic

/-!
What can be wrong with the fields of guards and of settings. Each complaint has a short code and a
message, and is reported with the place of the field.
-/

namespace GuardedSteps

namespace Validation

inductive Complaint
  | notWhole
  | unreadableWhole
  | wholeTooLong
  | fractional
  | infinite
  | below (least : Int)
  | above (most : Int)
  | notAbove (bound : Int)
  | noKind
  | noText
  | unreadableText
  | noErrorType
  | noGuard
  | lacks (kind : Kind) (what : String)
  | frozen
  deriving DecidableEq, Repr

namespace Complaint

def code : Complaint → String
  | .notWhole => "int_type"
  | .unreadableWhole => "int_parsing"
  | .wholeTooLong => "int_parsing_size"
  | .fractional => "int_from_float"
  | .infinite => "finite_number"
  | .below _ => "greater_than_equal"
  | .above _ => "less_than_equal"
  | .notAbove _ => "greater_than"
  | .noKind => "enum"
  | .noText => "string_type"
  | .unreadableText => "string_unicode"
  | .noErrorType => "is_subclass_of"
  | .noGuard => "model_type"
  | .lacks _ _ => "value_error"
  | .frozen => "frozen_instance"

def kindNames : String :=
  let quoted := Kind.all.map fun kind => "'" ++ kind.name ++ "'"
  ", ".intercalate quoted.dropLast ++ " or " ++ quoted.getLast?.getD ""

def message : Complaint → String
  | .notWhole => "Input should be a valid integer"
  | .unreadableWhole => "Input should be a valid integer, unable to parse string as an integer"
  | .wholeTooLong => "Unable to parse input string as an integer, exceeded maximum size"
  | .fractional => "Input should be a valid integer, got a number with a fractional part"
  | .infinite => "Input should be a finite number"
  | .below least => "Input should be greater than or equal to " ++ Number.integerText least
  | .above most => "Input should be less than or equal to " ++ Number.integerText most
  | .notAbove bound => "Input should be greater than " ++ Number.integerText bound
  | .noKind => "Input should be " ++ kindNames
  | .noText => "Input should be a valid string"
  | .unreadableText => "Input should be a valid string, unable to parse raw data as a unicode string"
  | .noErrorType => "Input should be a subclass of BaseException"
  | .noGuard => "Input should be a valid dictionary or instance of Guard"
  | .lacks kind what => "Value error, " ++ kind.name ++ " requires " ++ what
  | .frozen => "Instance is frozen"

end Complaint

/-- A complaint about the field at a place. -/
structure Detail where
  complaint : Complaint
  place : List String
  deriving DecidableEq, Repr

def Detail.inside (field : String) (detail : Detail) : Detail :=
  { detail with place := field :: detail.place }

def checked {α : Type} (field : String) : Except Complaint α → Except (List Detail) α
  | .ok result => .ok result
  | .error complaint => .error [⟨complaint, [field]⟩]

/-- Both results, or all that is wrong with either. -/
def both {α β : Type} (first : Except (List Detail) α) (second : Except (List Detail) β) :
    Except (List Detail) (α × β) :=
  match first, second with
  | .ok a, .ok b => .ok (a, b)
  | .error details, .ok _ => .error details
  | .ok _, .error details => .error details
  | .error details, .error more => .error (details ++ more)

end Validation

end GuardedSteps
