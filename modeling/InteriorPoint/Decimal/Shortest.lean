/-!
# `InteriorPoint.Decimal.Shortest`: the fewest digits that read back

A positive binary number `m * 2 ^ q` is the nearest one to every real
number of a small interval around it. Among the decimals
`d * 10 ^ e` in that interval, `shortest` picks one with the largest
`e`, which is one with the fewest digits, and of those the nearest to
the number. Where two are equally near it picks the larger.

The ends of the interval belong to it if `m` is even, since a tie is
rounded to an even significand. Below a power of two the numbers lie
twice as close, so the lower end is then only a quarter of a unit away.

Everything is computed with natural numbers: the interval is scaled by
a common denominator, and so is each decimal grid.
-/

set_option autoImplicit false

namespace InteriorPoint.Decimal

/-- A positive binary number, and whether the next smaller number is
only half as far away as the next larger one. -/
structure Binary where
  significand : Nat
  exponent : Int
  narrow : Bool
deriving DecidableEq, Repr

/-- The decimal number `digits * 10 ^ exponent`. -/
structure Digits where
  digits : Nat
  exponent : Int
deriving DecidableEq, Repr

/-- The numerators of the two ends of an interval and of a number in
it, over a common denominator. -/
structure Interval where
  low : Nat
  middle : Nat
  high : Nat
  denominator : Nat
  /-- The ends belong to the interval. -/
  closed : Bool
deriving DecidableEq, Repr

/-- The real numbers that are rounded to the given number. -/
def Binary.interval (b : Binary) : Interval :=
  let scale := Nat.pow 2 b.exponent.toNat
  { low := (4 * b.significand - if b.narrow then 1 else 2) * scale
    middle := 4 * b.significand * scale
    high := (4 * b.significand + 2) * scale
    denominator := 4 * Nat.pow 2 (-b.exponent).toNat
    closed := b.significand % 2 == 0 }

namespace Interval

/-- The same interval in units of `10 ^ exponent`. -/
def inUnits (i : Interval) (exponent : Int) : Interval :=
  let shrink := Nat.pow 10 (-exponent).toNat
  { i with
    low := i.low * shrink
    middle := i.middle * shrink
    high := i.high * shrink
    denominator := i.denominator * Nat.pow 10 exponent.toNat }

/-- Whether a whole number lies in the interval. -/
def contains (i : Interval) (n : Nat) : Bool :=
  let scaled := n * i.denominator
  if i.closed then i.low ≤ scaled && scaled ≤ i.high else i.low < scaled && scaled < i.high

/-- The whole number of the interval next to its middle. Only the two
neighbours of the middle come into question, and of two equally near
ones the larger is taken. -/
def nearestWhole? (i : Interval) : Option Nat :=
  let below := i.middle / i.denominator
  let remainder := i.middle % i.denominator
  match i.contains below, i.contains (below + 1) with
  | true, true => some (if 2 * remainder < i.denominator then below else below + 1)
  | true, false => some below
  | false, true => some (below + 1)
  | false, false => none

end Interval

/-- An exponent above that of the first digit of `middle / denominator`,
for numbers of at least `10 ^ (-limit)`. -/
def exponentAbove (i : Interval) (limit : Nat) : Int :=
  if i.denominator ≤ i.middle then (Nat.toDigits 10 (i.middle / i.denominator)).length
  else
    match (List.range limit).find? fun j => i.denominator ≤ i.middle * Nat.pow 10 (j + 1) with
    | some shift => -(shift : Int)
    | none => -(limit : Int)

/-- How many decimal grids are tried. Seventeen digits always suffice
for a significand of 53 bits, and the coarsest grid has one digit more
in front. -/
def gridCount : Nat := 19

/-- The decimal with the fewest digits that reads back as the given
number. -/
def shortest (b : Binary) : Digits :=
  let interval := b.interval
  let top := exponentAbove interval 400
  -- From the coarsest grid to the finest; the first hit has the fewest digits.
  let hit := (List.range gridCount).findSome? fun (step : Nat) =>
    let exponent := top - (step : Int)
    (interval.inUnits exponent).nearestWhole?.map fun digits => Digits.mk digits exponent
  hit.getD ⟨0, 0⟩

end InteriorPoint.Decimal
