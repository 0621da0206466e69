/-!
# The shortest decimal of a binary fraction

A finite binary floating-point number `m * 2 ^ q` stands for every real that
rounds to it. `shortest` picks, among the decimals in that interval, one with
the fewest digits, and among those the nearest. All arithmetic is exact: for
one, two, … seventeen digits the two neighbours of the value on that decimal
grid are tested, and the first grid with a hit wins.
-/

namespace GraphCourier.Decimal

/-- A positive binary fraction `significand * 2 ^ exponent`. `narrow` says that
the next smaller number is only half as far away as the next larger one. -/
structure Binary where
  significand : Nat
  exponent : Int
  narrow : Bool
deriving Repr

/-- The positive number `digits * 10 ^ exponent`. -/
structure Scientific where
  digits : Nat
  exponent : Int
deriving Repr, DecidableEq

namespace Binary

/-- The value in quarters of a unit in the last place, as numerator and
denominator of that unit. -/
def quarter (x : Binary) : Nat × Nat :=
  if 2 ≤ x.exponent then (Nat.pow 2 (x.exponent - 2).toNat, 1)
  else (1, Nat.pow 2 (2 - x.exponent).toNat)

/-- The lower end of the interval that rounds to `x`, in quarters. -/
def low (x : Binary) : Nat := 4 * x.significand - if x.narrow then 1 else 2

/-- The upper end of the interval, in quarters. -/
def high (x : Binary) : Nat := 4 * x.significand + 2

/-- Compares `f * 10 ^ e` with `k` quarters: both sides times the same number,
without fractions. -/
def scaled (x : Binary) (f k : Nat) (e : Int) : Nat × Nat :=
  let (num, den) := x.quarter
  (f * Nat.pow 10 e.toNat * den, k * num * Nat.pow 10 (-e).toNat)

/-- Tells whether `f * 10 ^ e` rounds to `x`. The ends of the interval count
when the significand is even. -/
def admits (x : Binary) (f : Nat) (e : Int) : Bool :=
  let (a, lo) := x.scaled f x.low e
  let (b, hi) := x.scaled f x.high e
  if x.significand % 2 = 0 then decide (lo ≤ a ∧ b ≤ hi)
  else decide (lo < a ∧ b < hi)

/-- The largest `f` with `f * 10 ^ e` at most `x`. -/
def floorOn (x : Binary) (e : Int) : Nat :=
  let (unit, value) := x.scaled 1 (4 * x.significand) e
  value / unit

/-- The better of the two neighbours of `x` on the grid of multiples of
`10 ^ e`, if one of them rounds to `x`. A tie goes to the even one. -/
def onGrid (x : Binary) (e : Int) : Option Nat :=
  let f := x.floorOn e
  match f != 0 && x.admits f e, x.admits (f + 1) e with
  | true, true =>
    let (twice, value) := x.scaled (2 * f + 1) (8 * x.significand) e
    if value < twice then some f
    else if twice < value then some (f + 1)
    else some (if f % 2 = 0 then f else f + 1)
  | true, false => some f
  | false, true => some (f + 1)
  | false, false => none

def magnitude (x : Binary) : Int :=
  let (unit, value) := x.scaled 1 (4 * x.significand) 0
  if unit ≤ value then ((Nat.toDigits 10 (value / unit)).length : Int) - 1
  else
    match (List.range 400).find? fun (k : Nat) => unit ≤ value * Nat.pow 10 k with
    | some k => -(k : Int)
    | none => 0

def trim : Nat → Scientific → Scientific
  | 0, d => d
  | fuel + 1, d =>
    if d.digits ≠ 0 ∧ d.digits % 10 = 0 then
      trim fuel ⟨d.digits / 10, d.exponent + 1⟩
    else d

/-- The shortest decimal that rounds to `x`, the nearest of those. -/
def shortest (x : Binary) : Scientific :=
  let top := x.magnitude
  let hit := (List.range 17).findSome? fun (n : Nat) =>
    let e : Int := top - (n : Int)
    (x.onGrid e).map fun f => (⟨f, e⟩ : Scientific)
  trim 20 (hit.getD ⟨x.significand, 0⟩)

end Binary

end GraphCourier.Decimal
