import LogQuery.Number

/-!
# Number.Shortest — the fewest decimal digits that read back

A decimal reads back as a magnitude when it lies between the midpoints to the neighbouring
magnitudes; the midpoints belong to the interval when the significand is even. Grids of decimals
are tried from the coarsest on: the first that has a point in the interval gives the digits, and of
its two points next to the value the nearer one.
-/

namespace LogQuery.Number

/-- The interval of decimals that round to a magnitude, in units of `2 ^ -1076`. -/
structure Rounding where
  low : Nat
  value : Nat
  high : Nat
  closed : Bool

/-- The decimals that round to `m`. Below a power of two the neighbour is half as far. -/
def rounding (m : Magnitude) : Rounding :=
  let unit := 2 ^ m.exponent
  let value := 4 * m.significand * unit
  let below := if m.significand = 2 ^ 52 ∧ 0 < m.exponent then unit else 2 * unit
  { low := value - below
    value := value
    high := value + 2 * unit
    closed := m.significand % 2 == 0 }

/-- The unit of the interval and of the grid `10 ^ power`, as natural numbers `(interval, grid)`:
a bound `b` and a grid point `d` compare as `b * interval` and `d * grid`. -/
def gridUnits (power : Int) : Nat × Nat :=
  if 0 ≤ power then (1, 10 ^ power.toNat * 2 ^ 1076) else (10 ^ (-power).toNat, 2 ^ 1076)

/-- Whether the grid point `digits * 10 ^ power` rounds to the magnitude. -/
def Rounding.admits (r : Rounding) (digits : Nat) (power : Int) : Bool :=
  let (interval, grid) := gridUnits power
  let low := r.low * interval
  let high := r.high * interval
  let point := digits * grid
  if r.closed then low ≤ point && point ≤ high else low < point && point < high

/-- The point of the grid `10 ^ power` that reads back, the nearer one if both neighbours do. -/
def Rounding.onGrid? (r : Rounding) (power : Int) : Option Nat :=
  let (interval, grid) := gridUnits power
  let below := r.value * interval / grid
  let rest := r.value * interval % grid
  match r.admits below power, r.admits (below + 1) power with
  | true, true =>
    some (if 2 * rest < grid then below
      else if grid < 2 * rest then below + 1 else below + below % 2)
  | true, false => some below
  | false, true => some (below + 1)
  | false, false => none

/-- The power of ten above the value: the value has its leading digit just below it. -/
def Rounding.position (r : Rounding) : Int :=
  digitCount (r.value * 10 ^ 330 / 2 ^ 1076) - 330

/-- Try the grids of `count` digits and more, up to the seventeen that always suffice. -/
def Rounding.search (r : Rounding) (position : Int) : Nat → Nat × Int
  | 0 => (r.value * (gridUnits (position - 17)).1 / (gridUnits (position - 17)).2, position - 17)
  | left + 1 =>
    let power := position - (17 - left : Nat)
    match r.onGrid? power with
    | some digits => (digits, power)
    | none => r.search position left

/-- Move the zeros at the end of the digits into the power of ten; `count` bounds their number. -/
def dropZeros : Nat → Nat → Int → Nat × Int
  | 0, digits, power => (digits, power)
  | count + 1, digits, power =>
    if digits % 10 = 0 then dropZeros count (digits / 10) (power + 1) else (digits, power)

/-- The fewest digits, with their power of ten, that read back as a magnitude other than zero. -/
def shortest (m : Magnitude) : Nat × Int :=
  let found := (rounding m).search (rounding m).position 17
  dropZeros 17 found.1 found.2

end LogQuery.Number
