/-!
Values. A step compares and prints values of one dynamic type: the null value, flags, whole numbers,
doubles, texts, bytes, collections of four shapes, mappings in the order of their entries, and
objects with named fields.
-/

namespace GuardedSteps

/-- The shapes of a collection. Comparison does not tell them apart, printing does. -/
inductive Shape
  | list
  | tuple
  | set
  | frozenSet
  deriving DecidableEq, Repr

inductive Value
  | null
  | flag (value : Bool)
  | integer (value : Int)
  | double (value : Float)
  | text (value : String)
  | bytes (values : List UInt8)
  | collection (shape : Shape) (items : List Value)
  | mapping (entries : List (Value × Value))
  | object (fields : List (String × Value))
  deriving Inhabited

namespace Value

/-! ## Keys

The keys of a mapping and the elements of a set are told apart by value: a flag counts as the
number one or zero, and a double as the whole number it is exactly equal to. -/

/-- Whether a double is exactly a whole number, decided on its bits so that no rounding enters. -/
def doubleIsInteger (x : Float) (value : Int) : Bool :=
  let bits := x.toBits.toNat
  let field := bits / Nat.pow 2 52 % 2048
  let mantissa : Nat := (if field = 0 then 0 else Nat.pow 2 52) + bits % Nat.pow 2 52
  let shift : Nat := if field = 0 then 1 else field
  let signed : Int := if bits / Nat.pow 2 63 = 1 then -mantissa else mantissa
  field != 2047 && signed * Nat.pow 2 shift == value * Nat.pow 2 1075

def wholeKey? : Value → Option Int
  | .flag value => some (if value then 1 else 0)
  | .integer value => some value
  | _ => none

mutual
def sameKey : Value → Value → Bool
  | .null, .null => true
  | .text first, .text second => first == second
  | .bytes first, .bytes second => first == second
  | .double first, .double second => first == second
  | .double first, second => (second.wholeKey?).any (doubleIsInteger first)
  | .flag first, .double second => doubleIsInteger second (if first then 1 else 0)
  | .integer first, .double second => doubleIsInteger second first
  | .flag first, second => second.wholeKey? == some (if first then 1 else 0)
  | .integer first, second => second.wholeKey? == some first
  | .collection .tuple first, .collection .tuple second => sameKeys first second
  | .collection .set first, .collection shape second =>
    (shape == .set || shape == .frozenSet) && sameKeys first second
  | .collection .frozenSet first, .collection shape second =>
    (shape == .set || shape == .frozenSet) && sameKeys first second
  | _, _ => false

def sameKeys : List Value → List Value → Bool
  | [], [] => true
  | first :: rest, second :: others => sameKey first second && sameKeys rest others
  | _, _ => false
end

/-! ## Building collections and mappings -/

def entryAt? (entries : List (Value × Value)) (key : Value) : Option (Value × Value) :=
  entries.find? fun entry => sameKey entry.1 key

/-- A mapping keeps the place and the key of the first entry of a key, and the value of the last. -/
def insertEntry (entries : List (Value × Value)) (key value : Value) : List (Value × Value) :=
  if (entryAt? entries key).isSome then
    entries.map fun entry => if sameKey entry.1 key then (entry.1, value) else entry
  else entries ++ [(key, value)]

def mappingOf (entries : List (Value × Value)) : Value :=
  .mapping (entries.foldl (fun built entry => insertEntry built entry.1 entry.2) [])

/-- A set keeps the first of its elements that are the same key. -/
def distinct (items : List Value) : List Value :=
  items.foldl (fun kept item => if kept.any (sameKey · item) then kept else kept ++ [item]) []

def nested : (depth : Nat) → Value → Value
  | 0, value => value
  | depth + 1, value => .collection .list [nested depth value]

example : (nested 2 .null) = .collection .list [.collection .list [.null]] := rfl

/-! ## Views -/

def items? : Value → Option (List Value)
  | .collection _ items => some items
  | _ => none

def entries? : Value → Option (List (Value × Value))
  | .mapping entries => some entries
  | _ => none

end Value

end GuardedSteps
