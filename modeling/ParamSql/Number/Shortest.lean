import ParamSql.Number.Binary

/-!
# Shortest decimals

The decimal with the fewest digits among those that round to a given binary number and, of these,
the one nearest to it.

A finite number `m * 2 ^ q` owns the decimals between the midpoints to its two neighbours, the
midpoints included when `m` is even. A decimal grid holds the multiples of a power of ten; the
coarsest grid with a point in that interval gives the fewest digits.

* `Interval` — the number and its two midpoints, over a common denominator.
* `Interval.pick?` — the point of a grid that stands for the number, if it has one.
* `Binary.shortest` — digits and power of ten of the result.
-/

set_option autoImplicit false

namespace ParamSql

/-- Which of two points goes out when a number lies exactly between them. -/
inductive TieRule where
  | toEven
  | away
  deriving DecidableEq, Repr

/-- The decimals that round to a number: the number is `value * 2 ^ scale` and the ends of the
interval are `low * 2 ^ scale` and `high * 2 ^ scale`. -/
structure Interval where
  low : Nat
  value : Nat
  high : Nat
  scale : Int
  closed : Bool

namespace Interval

/-- The interval as counts of a common unit fraction: `2 ^ scale` is `numerator / denominator`. -/
def numerator (i : Interval) : Nat := Nat.pow 2 i.scale.toNat

/-- The other part of the unit. -/
def denominator (i : Interval) : Nat := Nat.pow 2 (-i.scale).toNat

/-- Whether `j * 10 ^ k` lies in the interval. -/
def holds (i : Interval) (j : Nat) (k : Int) : Bool :=
  let point := j * Nat.pow 10 k.toNat * i.denominator
  let unit := Nat.pow 10 (-k).toNat * i.numerator
  if i.closed then i.low * unit ≤ point && point ≤ i.high * unit
  else i.low * unit < point && point < i.high * unit

/-- The point of the grid of `10 ^ k` that stands for the number, if one lies in the interval: of
the two next to the number the nearer one. -/
def pick? (i : Interval) (tie : TieRule) (k : Int) : Option Nat :=
  let step := Nat.pow 10 k.toNat * i.denominator
  let target := i.value * (Nat.pow 10 (-k).toNat * i.numerator)
  let below := target / step
  match i.holds below k, i.holds (below + 1) k with
  | false, false => none
  | true, false => some below
  | false, true => some (below + 1)
  | true, true =>
    let left := target % step
    if 2 * left < step then some below
    else if step < 2 * left then some (below + 1)
    else match tie with
      | .toEven => some (if below % 2 = 0 then below else below + 1)
      | .away => some (below + 1)

/-- The first point met going from the grid of `10 ^ k` to finer ones, `n` of them at most. -/
def search (i : Interval) (tie : TieRule) : Nat → Int → Nat × Int
  | 0, k => (0, k)
  | n + 1, k =>
    match i.pick? tie k with
    | some j => (j, k)
    | none => search i tie n (k - 1)

end Interval

namespace Binary

variable {f : BinaryFormat}

/-- The decimals that round to a finite number other than zero. Below a power of two the next
number is half as far away as above it. -/
def interval (x : Binary f) : Interval :=
  let m := x.significand
  let low := if x.fractionField = 0 && 1 < x.exponentField then 4 * m - 1 else 4 * m - 2
  ⟨low, 4 * m, 4 * m + 2, x.power - 2, m % 2 == 0⟩

/-- A power of ten above a finite number. -/
def startPower (x : Binary f) : Int :=
  let size := x.power + x.significand.log2 + 2
  if 0 ≤ size then size / 3 + 1 else 1 - (-size) * 3 / 10

/-- The shortest decimal `d * 10 ^ k` that rounds to a finite number, as `(d, k)`; zero is
`(0, 0)`. The grid of `10 ^ k` is finer than the interval once `k` is below its scale and not
positive, so the search ends with a point. -/
def shortest (tie : TieRule) (x : Binary f) : Nat × Int :=
  if x.significand = 0 then (0, 0)
  else
    let start := x.startPower
    x.interval.search tie ((start - min (x.power - 2) 0).toNat + 1) start

end Binary

end ParamSql
