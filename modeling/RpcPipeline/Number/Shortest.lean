import RpcPipeline.Number.Binary

/-!
# `RpcPipeline.Number.Shortest`: the fewest digits that read back

A float stands for every real number that rounds to it. Its shortest decimal is
the number with the fewest digits in that interval, the one nearest to the exact
value if several have as few.

For one, two, … seventeen digits `shortest` looks at the two neighbours of the
exact value on the grid of decimals with that many digits. If any point of a
grid lies in the interval, so does one of those two neighbours, so the first
grid with a hit has the fewest digits.
-/

set_option autoImplicit false

namespace RpcPipeline.Number

/-- A positive decimal `0.d₁d₂… * 10 ^ point`, where `digits` holds `d₁d₂…` as a
whole number without trailing zeros. -/
structure Decimal where
  digits : Nat
  point : Int
  deriving Repr, DecidableEq

/-- Drops trailing zeros, at most `fuel` of them. -/
def stripZeros : Nat → Nat → Nat
  | 0, n => n
  | fuel + 1, n => if n ≠ 0 ∧ n % 10 = 0 then stripZeros fuel (n / 10) else n

/-- The number of decimal digits of `n`, one for zero. -/
def digitCount (n : Nat) : Nat := (Nat.toDigits 10 n).length

/-- The interval of reals that round to `mantissa * 2 ^ exponent`, in quarters
of a unit in the last place: from `low` to `high`, with `mid` the value itself.
Below a power of two the floats are twice as dense, which brings the lower end
nearer. -/
structure Interval where
  low : Nat
  mid : Nat
  high : Nat
  /-- Whether the ends themselves round to the value. -/
  closed : Bool

/-- The interval of a positive double-precision float. -/
def Interval.ofDyadic (d : Dyadic) : Interval :=
  let m := d.mantissa
  let denser := m = Nat.pow 2 52 ∧ d.exponent ≠ -1074
  { low := 4 * m - (if denser then 1 else 2), mid := 4 * m, high := 4 * m + 2,
    closed := m % 2 = 0 }

/-- Whether `num / den` (in the units of the interval) lies in the interval. -/
def Interval.contains (i : Interval) (num den : Nat) : Bool :=
  if i.closed then i.low * den ≤ num && num ≤ i.high * den
  else i.low * den < num && num < i.high * den

/-- The position of the decimal point of `num / den`: the `p` with
`10 ^ (p - 1) ≤ num / den < 10 ^ p`. The estimate from the digit counts is off
by at most one. -/
def pointPosition (num den : Nat) : Int :=
  let estimate : Int := (digitCount num : Int) - digitCount den
  let reached := Nat.pow 10 (-estimate).toNat * num ≥ Nat.pow 10 estimate.toNat * den
  if reached then estimate + 1 else estimate

/-- Searches the grids of `count`, `count + 1`, … digits for the point of the
interval nearest to the value `num / den`, both given in quarters of a unit that
is worth `unitNum / unitDen`. -/
def shortestFrom (i : Interval) (unitNum unitDen : Nat) (point : Int) :
    Nat → Nat → Option Decimal
  | 0, _ => none
  | fuel + 1, count =>
    -- A step of this grid is `10 ^ exponent`; in units it is `stepNum / stepDen`.
    let exponent : Int := point - count
    let stepNum := Nat.pow 10 exponent.toNat * unitDen
    let stepDen := Nat.pow 10 (-exponent).toNat * unitNum
    let below := i.mid * stepDen / stepNum
    let above := below + 1
    let hitBelow := below ≠ 0 && i.contains (below * stepNum) stepDen
    let hitAbove := i.contains (above * stepNum) stepDen
    let nearerBelow :=
      2 * (i.mid * stepDen) < (below + above) * stepNum ||
        (2 * (i.mid * stepDen) = (below + above) * stepNum && below % 2 = 0)
    let found :=
      if hitBelow && (nearerBelow || !hitAbove) then some below
      else if hitAbove then some above
      else none
    match found with
    | some digits =>
      let stripped := stripZeros (count + 1) digits
      -- Rounding up may carry into a new leading digit.
      some ⟨stripped, if digits = Nat.pow 10 count then point + 1 else point⟩
    | none => shortestFrom i unitNum unitDen point fuel (count + 1)

/-- The decimal with the fewest digits that reads back as the positive
double-precision value `d`. Seventeen digits always suffice. -/
def shortest (d : Dyadic) : Decimal :=
  let quarter : Int := d.exponent - 2
  let unitNum := Nat.pow 2 quarter.toNat
  let unitDen := Nat.pow 2 (-quarter).toNat
  let point := pointPosition d.numerator d.denominator
  (shortestFrom (.ofDyadic d) unitNum unitDen point 17 1).getD ⟨0, point⟩

end RpcPipeline.Number
