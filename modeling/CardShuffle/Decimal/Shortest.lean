import CardShuffle.Decimal.Binary64

/-!
# The shortest decimal that reads back

A binary64 number is the nearest one for a whole interval of real values. Among
the decimals in that interval the shortest text has the fewest digits, and among
those it lies nearest to the number. The search goes through grids of one to
seventeen digits and looks at the two points of each grid around the number.
-/

namespace CardShuffle

/-- The value `digits * 10 ^ exponent`. -/
structure Decimal where
  digits : Nat
  exponent : Int
  deriving Repr, DecidableEq

namespace Decimal

/-- Which of two equally near decimals is taken. -/
inductive Tie where
  /-- The larger one. -/
  | up
  /-- The one with an even last digit. -/
  | even
  deriving Repr, DecidableEq

/-- The interval that reads back as one number, over a common denominator that
every part shares: its ends, the number, and whether the ends belong to it. -/
structure Interval where
  low : Nat
  value : Nat
  high : Nat
  closed : Bool
  deriving Repr, DecidableEq

/-- The interval of `mantissa * 2 ^ exponent` in quarters of `2 ^ exponent`. The
number below a power of two is only half as far away, unless the numbers below
have the same spacing. -/
def Interval.ofBinary (mantissa : Nat) (exponent : Int) : Interval :=
  { low :=
      if mantissa = Binary64.hidden ∧ -1074 < exponent then 4 * mantissa - 1
      else 4 * mantissa - 2
    value := 4 * mantissa
    high := 4 * mantissa + 2
    closed := mantissa % 2 == 0 }

/-- Remove zeros from the end of the digits, at most `fuel` of them. -/
def strip : (fuel : Nat) -> Decimal -> Decimal
  | 0, decimal => decimal
  | fuel + 1, decimal =>
      if decimal.digits ≠ 0 ∧ decimal.digits % 10 = 0 then
        strip fuel ⟨decimal.digits / 10, decimal.exponent + 1⟩
      else
        decimal

/-- A grid point as a multiple of the interval's units: the point `digits` lies
at `digits * step / unit`. -/
structure Grid where
  unit : Nat
  step : Nat
  deriving Repr, DecidableEq

/-- Whether a grid point lies in the interval. -/
def Interval.holds (interval : Interval) (grid : Grid) (digits : Nat) : Bool :=
  if interval.closed then
    interval.low * grid.unit ≤ digits * grid.step &&
      digits * grid.step ≤ interval.high * grid.unit
  else
    interval.low * grid.unit < digits * grid.step &&
      digits * grid.step < interval.high * grid.unit

/-- The nearer one of the two grid points around the number that lie in the
interval, if any does. -/
def Interval.select (interval : Interval) (tie : Tie) (grid : Grid) : Option Nat :=
  let target := interval.value * grid.unit
  let below := target / grid.step
  match interval.holds grid below, interval.holds grid (below + 1) with
  | false, false => none
  | true, false => some below
  | false, true => some (below + 1)
  | true, true =>
      let down := target - below * grid.step
      let up := (below + 1) * grid.step - target
      if down < up then some below
      else if up < down then some (below + 1)
      else match tie with
        | .up => some (below + 1)
        | .even => some (below + below % 2)

/-- The largest power of ten, between the estimate less one and the estimate
plus one, that is not above `mantissa * 2 ^ exponent`. -/
def magnitude (mantissa : Nat) (exponent : Int) : Int :=
  let estimate := (exponent + mantissa.log2) * 30103 / 100000
  let reached (power : Int) : Bool :=
    let (up, down) := Binary64.power 2 exponent
    let (above, below) := Binary64.power 10 power
    above * down ≤ mantissa * up * below
  if reached (estimate + 1) then estimate + 1
  else if reached estimate then estimate
  else estimate - 1

/-- Search the grids from `count` digits on. -/
def search (interval : Interval) (tie : Tie) (exponent leading : Int) :
    (remaining : Nat) -> (count : Nat) -> Option Decimal
  | 0, _ => none
  | remaining + 1, count =>
      let place := leading - count + 1
      let (up, down) := Binary64.power 2 (exponent - 2)
      let (above, below) := Binary64.power 10 place
      match interval.select tie ⟨up * below, down * above⟩ with
      | some digits => some (strip 20 ⟨digits, place⟩)
      | none => search interval tie exponent leading remaining (count + 1)

/-- The shortest decimal that reads back as `mantissa * 2 ^ exponent`. Zero is
written with the single digit 0. -/
def shortest (tie : Tie) (mantissa : Nat) (exponent : Int) : Decimal :=
  if mantissa = 0 then ⟨0, 0⟩
  else
    (search (.ofBinary mantissa exponent) tie exponent (magnitude mantissa exponent) 17 1).getD
      ⟨mantissa, 0⟩

end Decimal

end CardShuffle
