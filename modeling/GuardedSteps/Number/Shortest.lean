/-!
The shortest decimal of a double. Among the decimals that are read back as the same double, take one
with the fewest digits, and of those the nearest to it. The search is exact: the double is a whole
number of halves of halves of its last place, and the decimals tried are whole multiples of a power
of ten.
-/

namespace GuardedSteps

namespace Number

/-! ## The parts of a double -/

/-- What the bits of a double stand for. -/
inductive Double
  | notANumber
  | infinite (negative : Bool)
  /-- `mantissa * 2 ^ exponent`, with the given sign. -/
  | finite (negative : Bool) (mantissa : Nat) (exponent : Int)
  deriving DecidableEq, Repr

def Double.ofFields (negative : Bool) (field fraction : Nat) : Double :=
  if field = 2047 then if fraction = 0 then .infinite negative else .notANumber
  else if field = 0 then .finite negative fraction (-1074)
  else .finite negative (Nat.pow 2 52 + fraction) (field - 1075)

def Double.ofFloat (x : Float) : Double :=
  let bits := x.toBits.toNat
  .ofFields (bits / Nat.pow 2 63 == 1) (bits / Nat.pow 2 52 % 2048) (bits % Nat.pow 2 52)

example : Double.ofFields false 1023 0 = .finite false (Nat.pow 2 52) (-52) := by decide

/-! ## Exact comparison with a grid of decimals -/

def scale (base : Nat) (power : Int) : Nat × Nat :=
  (Nat.pow base power.toNat, Nat.pow base (-power).toNat)

/-- A positive double seen on the grid of the multiples of `10 ^ power`: with `unit` the size of
one step of the grid, `value` lies between `low` and `high`, the ends of the numbers that round to
it. -/
structure Grid where
  low : Nat
  value : Nat
  high : Nat
  unit : Nat
  /-- Whether the two ends themselves round to the double. -/
  closed : Bool

/-- Everything is measured in quarters of the last place. The next double below is half as far away
as the next above when the mantissa is a power of two that is not the smallest. -/
def Grid.of (mantissa : Nat) (exponent power : Int) : Grid :=
  let two := scale 2 (exponent - 2)
  let ten := scale 10 power
  let weight := two.1 * ten.2
  let below := if mantissa = Nat.pow 2 52 ∧ -1074 < exponent then 1 else 2
  { low := (4 * mantissa - below) * weight
    value := 4 * mantissa * weight
    high := (4 * mantissa + 2) * weight
    unit := ten.1 * two.2
    closed := mantissa % 2 == 0 }

def Grid.holds (grid : Grid) (multiple : Nat) : Bool :=
  if grid.closed then grid.low ≤ multiple * grid.unit && multiple * grid.unit ≤ grid.high
  else grid.low < multiple * grid.unit && multiple * grid.unit < grid.high

/-- The multiple just below the double or the one just above, if it rounds to the double: the
nearer of the two, and the even one at equal distance. -/
def Grid.nearest? (grid : Grid) : Option Nat :=
  let below := grid.value / grid.unit
  let excess := 2 * (grid.value - below * grid.unit)
  let aboveFirst := grid.unit < excess || (grid.unit == excess && below % 2 == 1)
  if aboveFirst && grid.holds (below + 1) then some (below + 1)
  else if grid.holds below then some below
  else if grid.holds (below + 1) then some (below + 1)
  else none

/-! ## Fewest digits first -/

/-- A decimal `digits * 10 ^ power`. -/
structure Decimal where
  digits : Nat
  power : Int
  deriving DecidableEq, Repr

/-- The least power of ten above a positive double. The estimate from the binary logarithm is never
too large, and at most two too small. -/
def magnitude (mantissa : Nat) (exponent : Int) : Int :=
  let estimate := (mantissa.log2 + exponent) * 30103 / 100000
  let above (power : Int) : Bool :=
    let two := scale 2 exponent
    let ten := scale 10 power
    mantissa * two.1 * ten.2 < ten.1 * two.2
  if above estimate then estimate
  else if above (estimate + 1) then estimate + 1
  else estimate + 2

/-- Try one more digit at a time; seventeen digits always suffice. -/
def shortestFrom (mantissa : Nat) (exponent top : Int) : (count : Nat) → Decimal
  | 0 => ⟨0, 0⟩
  | count + 1 =>
    let power := top - (17 - count : Nat)
    match (Grid.of mantissa exponent power).nearest? with
    | some digits => ⟨digits, power⟩
    | none => shortestFrom mantissa exponent top count

def shortest (mantissa : Nat) (exponent : Int) : Decimal :=
  shortestFrom mantissa exponent (magnitude mantissa exponent) 17

example : shortest 7205759403792794 (-56) = ⟨1, -1⟩ ∧ shortest 1 (-1074) = ⟨5, -324⟩ := by
  decide +kernel

end Number

end GuardedSteps
