/-
  The shortest decimal that stands for a double.

  1. **What may stand for it**: the decimals that round to it.  They are the interval between the
     midpoints to its two neighbours; the midpoints belong to it exactly when the significand is
     even, because a half goes to the even neighbour.  Below a power of two the neighbour is nearer.
  2. **Which one is taken**: the grid of multiples of 10^k is coarser for larger k, so the fewest
     digits come from the largest k with a multiple inside.  If any multiple is inside, one of the
     two around the value is, and of two the nearer is taken; a tie is settled by `Tie`.
  3. **Why the search ends**: every double is a multiple of 10^-1074, so the last grid always hits.

  All of it is exact arithmetic on natural numbers.

  Mathlib-free.
-/
import TraceQuery.Decimal.Double

namespace TraceQuery.Decimal

/-- Which of two equally near decimals is taken. -/
inductive Tie where
  | even
  | up
deriving DecidableEq, Repr

/-! ## The interval of a double -/

/-- The ends of the interval that rounds to `x`, in quarters of a step. -/
structure Interval where
  low : Nat
  high : Nat
  closed : Bool
deriving DecidableEq, Repr

/-- The decimals that round to `x`, with their ends; below a power of two the neighbour is half as far
    away. -/
def Finite.interval (x : Finite) : Interval :=
  let gap := twoTo x.exponent
  let below := if x.significand = twoTo 52 ∧ 0 < x.exponent then gap else 2 * gap
  ⟨4 * x.magnitude - below, 4 * x.magnitude + 2 * gap, x.significand % 2 = 0⟩

/-- Tells whether the ratio `num / den`, in quarters of a step, lies in the interval. -/
def Interval.holds (i : Interval) (num den : Nat) : Bool :=
  if i.closed then i.low * den ≤ num && num ≤ i.high * den
  else i.low * den < num && num < i.high * den

/-! ## One grid -/

/-- The grid of multiples of `10^k`: a multiple `c` is `c * num / den` quarters of a step. -/
structure Grid where
  num : Nat
  den : Nat
deriving DecidableEq, Repr

/-- The multiples of a power of ten. -/
def gridAt (k : Int) : Grid :=
  if 0 ≤ k then ⟨4 * stepsInOne * tenTo k.toNat, 1⟩ else ⟨4 * stepsInOne, tenTo (-k).toNat⟩

/-- The nearest of the multiples around `x` that lie in its interval. -/
def Finite.onGrid (tie : Tie) (x : Finite) (g : Grid) : Option Nat :=
  let i := x.interval
  let value := 4 * x.magnitude * g.den
  -- `floor` and the multiple above it are the only two that can be nearest
  let floor := value / g.num
  let lower := i.holds (floor * g.num) g.den
  let upper := i.holds ((floor + 1) * g.num) g.den
  let twice := 2 * (value % g.num)
  if lower && upper then
    if twice < g.num then some floor
    else if g.num < twice then some (floor + 1)
    else match tie with
      | .even => some (floor + floor % 2)
      | .up => some (floor + 1)
  else if lower then some floor
  else if upper then some (floor + 1)
  else none

/-! ## The search -/

/-- Digits and power of ten of a decimal: `digits * 10^power`. -/
structure Digits where
  digits : Nat
  power : Int
deriving DecidableEq, Repr

/-- The first grid with a hit among `power`, `power - 1`, … (`count + 1` of them). -/
def Finite.search (tie : Tie) (x : Finite) : Nat → Int → Digits
  | 0, power => ⟨(x.onGrid tie (gridAt power)).getD 0, power⟩
  | count + 1, power =>
    match x.onGrid tie (gridAt power) with
    | some c => ⟨c, power⟩
    | none => search tie x count (power - 1)

/-- A power of ten above every decimal that stands for `x`. -/
def Finite.startPower (x : Finite) : Int :=
  ((Int.ofNat x.magnitude.log2 - 1074 + 2) * 30103) / 100000 + 1

/-- The shortest decimal that stands for `x`, for an `x` that is not zero. -/
def Finite.shortest (tie : Tie) (x : Finite) : Digits :=
  let start := x.startPower
  x.search tie (start + 1074).toNat start

end TraceQuery.Decimal
