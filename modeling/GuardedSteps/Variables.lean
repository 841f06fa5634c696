import GuardedSteps.Value.Text

/-!
Variables and the paths that lead to values inside them. A path is a row of parts between dots; each
part is a key, an index or a field, depending on the value that has been reached.
-/

namespace GuardedSteps

abbrev Variables := List (String × Value)

namespace Variables

def set (bindings : Variables) (name : String) (value : Value) : Variables :=
  if (bindings.lookup name).isSome then
    bindings.map fun entry => if entry.1 == name then (name, value) else entry
  else bindings ++ [(name, value)]

def erase (bindings : Variables) (name : String) : Variables :=
  bindings.filter (·.1 != name)

end Variables

namespace Value

open Text

/-! ## Parts of a value -/

def sequence? : Value → Option (List Value)
  | .collection .list items | .collection .tuple items => some items
  | .bytes values => some (values.map fun byte => .integer byte.toNat)
  | _ => none

/-- Whether a part looks like an index: digits behind any number of minus signs. -/
def looksLikeIndex (part : List Char) : Bool :=
  let digits := part.dropWhile (· == '-')
  !digits.isEmpty && digits.all isDigit

def elementAt? (items : List Value) (index : Int) : Option Value :=
  let place := if index < 0 then index + items.length else index
  if place < 0 then none else items[place.toNat]?

/-- What values that are not mappings have under a name, if anything. -/
abbrev Attributes : Type := Value → String → Option Value

/-- The attributes of data: an object has its fields, numbers have a real and an imaginary part, and whole
numbers are fractions too. -/
def field? : Attributes := fun value name =>
  match value with
  | .object fields => fields.lookup name
  | .double x =>
    if name == "real" then some (.double x) else if name == "imag" then some (.double 0.0) else none
  | .flag _ | .integer _ =>
    if name == "real" || name == "numerator" then value.wholeKey?.map .integer
    else if name == "imag" then some (.integer 0)
    else if name == "denominator" then some (.integer 1)
    else none
  | _ => none

/-- The part of a value that a path goes to next. An index that is none after all is a fault. -/
def part? (attributes : Attributes) (value : Value) (part : String) :
    Except Number.IntegerFault (Option Value) :=
  match value, value.sequence? with
  | .mapping entries, _ => .ok ((entryAt? entries (.text part)).map (·.2))
  | _, some items =>
    if looksLikeIndex part.toList then (Number.readInteger part.toList).map (elementAt? items ·)
    else .ok (attributes value part)
  | _, none => .ok (attributes value part)

def follow (attributes : Attributes) (value : Value) :
    List String → Except Number.IntegerFault (Option Value)
  | [] => .ok (some value)
  | part :: rest => do
    match ← value.part? attributes part with
    | some inner => follow attributes inner rest
    | none => return none

end Value

namespace Variables

/-! ## Paths -/

def pathParts : List Char → List (List Char)
  | [] => [[]]
  | c :: rest =>
    if c == '.' then [] :: pathParts rest
    else match pathParts rest with
      | part :: parts => (c :: part) :: parts
      | [] => [[c]]

example : pathParts ['a', '.', '.', 'b'] = [['a'], [], ['b']] := by decide

def lookupIn? (attributes : Value.Attributes) (bindings : Variables) (path : String) :
    Except Number.IntegerFault (Option Value) :=
  (Value.mapping (bindings.map fun entry => (.text entry.1, entry.2))).follow attributes
    ((pathParts path.toList).map String.ofList)

/-- The value that a token leads to as a path, or else the token itself. -/
def getOrSelfIn (attributes : Value.Attributes) (bindings : Variables) (token : String) :
    Except Number.IntegerFault Value :=
  (bindings.lookupIn? attributes token).map (·.getD (.text token))

def getOrSelf (bindings : Variables) (token : String) : Except Number.IntegerFault Value :=
  bindings.getOrSelfIn Value.field? token

end Variables

end GuardedSteps
