/-!
# Shortest decimals

A binary float stands for every real number that rounds to it. `shortest` finds the decimal with
the fewest digits among these numbers and, among those, the one nearest to the float; where an exact
tie goes is up to the format that is written. It looks at decimal grids from coarse to fine and
takes the first grid with a point in the interval. All comparisons are between natural numbers.
-/

namespace Panorama.Decimal

/-- Where a number goes that lies in the middle between two points of a grid. -/
inductive Tie where
  /-- To the upper one. -/
  | up
  /-- To the one with an even last digit. -/
  | even
  deriving DecidableEq, Repr

/-- Whether the upper one of two neighbors is meant by a number that lies `distance` above the lower
one, whose digits are `below`, on a grid of some spacing. -/
def Tie.isUpper (tie : Tie) (below distance spacing : Nat) : Bool :=
  match tie with
  | .up => spacing ≤ 2 * distance
  | .even => spacing < 2 * distance || (spacing = 2 * distance && below % 2 = 1)

/-- The positive float `mantissa * 2 ^ exponent` with the reals that round to it. All three
numbers are in units of a quarter of the last place. -/
structure Interval where
  /-- Lower end. -/
  low : Nat
  /-- The float itself. -/
  value : Nat
  /-- Upper end. -/
  high : Nat
  /-- Power of two that a unit stands for. -/
  exponent : Int
  /-- Whether the ends themselves round to the float. -/
  closed : Bool

/-- The interval of `mantissa * 2 ^ exponent`, where `power` is the smallest mantissa of full
precision: below a power of two the floats lie twice as dense. -/
def Interval.of (power mantissa : Nat) (exponent : Int) : Interval where
  low := 4 * mantissa - (if mantissa = power then 1 else 2)
  value := 4 * mantissa
  high := 4 * mantissa + 2
  exponent := exponent - 2
  closed := mantissa % 2 = 0

/-- The point `digits * 10 ^ place` of a decimal grid. -/
structure Point where
  /-- Decimal digits as one number. -/
  digits : Nat
  /-- Power of ten of the last digit. -/
  place : Int

/-- The point of the grid with spacing `10 ^ place` that stands for the interval, if one lies in
it: the nearer of the value's two neighbors. -/
def Interval.pointAt (interval : Interval) (tie : Tie) (place : Int) : Option Point :=
  let scale := Nat.pow 2 interval.exponent.toNat * Nat.pow 10 (-place).toNat
  let spacing := Nat.pow 2 (-interval.exponent).toNat * Nat.pow 10 place.toNat
  let below := interval.value * scale / spacing
  let low := interval.low * scale
  let high := interval.high * scale
  let down := low < below * spacing || (interval.closed && low == below * spacing)
  let up := (below + 1) * spacing < high || (interval.closed && (below + 1) * spacing == high)
  let nearer := tie.isUpper below (interval.value * scale - below * spacing) spacing
  if up && (!down || nearer) then some ⟨below + 1, place⟩
  else if down && below != 0 then some ⟨below, place⟩
  else none

/-- The first grid with a point for the interval, from `place` downwards. -/
def Interval.search (interval : Interval) (tie : Tie) : Nat → Int → Point
  | 0, place => ⟨0, place⟩
  | steps + 1, place =>
    match interval.pointAt tie place with
    | some point => point
    | none => interval.search tie steps (place - 1)

/-- The shortest decimal of the positive float `mantissa * 2 ^ exponent`. The search starts above
the float's leading digit and a float never needs more than seventeen digits. -/
def shortest (tie : Tie) (power mantissa : Nat) (exponent : Int) : Point :=
  let bits : Int := mantissa.log2 + 1 + exponent
  (Interval.of power mantissa exponent).search tie 24 (bits * 30103 / 100000 + 2)

end Panorama.Decimal
