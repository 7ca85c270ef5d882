import BuildConductor.Decimal.Binary64

/-! The fewest decimal digits that read back.

Every binary64 number stands for the interval of reals that round to it. The
text of a number uses a decimal in that interval with as few digits as any, and
of those the nearest. Only the two decimals around the number need to be tried
on each grid, since a grid with a point in the interval has one of them there. -/
namespace BuildConductor.Decimal

/-- The decimal `digits · 10 ^ exponent`. -/
structure Scaled where
  digits : Nat
  exponent : Int
deriving DecidableEq, Repr

/-- How many digits a natural number is written with. -/
def digitCount (n : Nat) : Nat :=
  (Nat.toDigits 10 n).length

/-- The exponent of ten of the leading digit of `num / den`. -/
def leadingExponent (num den : Nat) : Int :=
  if den ≤ num then (digitCount (num / den) : Int) - 1 else -(digitCount (den / num) : Int)

/-- `10 ^ exponent` as a quotient. -/
def powerRatio (exponent : Int) : Nat × Nat :=
  if 0 ≤ exponent then (Nat.pow 10 exponent.toNat, 1) else (1, Nat.pow 10 exponent.natAbs)

namespace Binary64

/-- Twice the distance from the number down to its lower neighbour is half as
long at a power of two; in quarters of its last place. -/
def quartersBelow (x : Binary64) : Nat :=
  if x.significand = Nat.pow 2 52 ∧ x.shift ≠ 0 then 1 else 2

/-- Whether the quotient `num / den` rounds to the magnitude of `x`. The ends of
the interval belong to it when the significand is even. -/
def covers (x : Binary64) (num den : Nat) : Bool :=
  let quarter := Nat.pow 2 x.shift * den
  let low := (4 * x.significand - x.quartersBelow) * quarter
  let high := (4 * x.significand + 2) * quarter
  let point := num * (4 * unitsPerOne)
  if x.significand % 2 = 0 then low ≤ point && point ≤ high else low < point && point < high

/-- The multiple of `10 ^ exponent` nearest to `x` among its two neighbours there
that read back, if there is one; a tie goes to the even one. -/
def onGrid? (x : Binary64) (exponent : Int) : Option Scaled :=
  let (gridNum, gridDen) := powerRatio exponent
  let num := x.units * gridDen
  let den := unitsPerOne * gridNum
  let below := num / den
  let rest := num % den
  let pick (digits : Nat) : Option Scaled := some ⟨digits, exponent⟩
  match x.covers (below * gridNum) gridDen, x.covers ((below + 1) * gridNum) gridDen with
  | true, false => pick below
  | false, true => pick (below + 1)
  | true, true =>
    if 2 * rest < den then pick below
    else if den < 2 * rest then pick (below + 1)
    else if below % 2 = 0 then pick below
    else pick (below + 1)
  | false, false => none

/-- The magnitude itself, written out in full. -/
def exact (x : Binary64) : Scaled :=
  ⟨x.units * Nat.pow 5 1074, -1074⟩

end Binary64

/-- The same decimal without zeros at its end. -/
def Scaled.stripZeros (d : Scaled) : Scaled :=
  if d.digits ≠ 0 ∧ d.digits % 10 = 0 then
    Scaled.stripZeros ⟨d.digits / 10, d.exponent + 1⟩
  else
    d
termination_by d.digits

/-- The shortest decimal that reads back as the magnitude of `x`. -/
def Binary64.shortest (x : Binary64) : Scaled :=
  let top := leadingExponent x.units unitsPerOne
  match (List.range 17).findSome? fun n : Nat => x.onGrid? (top - n) with
  | some d => d.stripZeros
  | none => x.exact.stripZeros

end BuildConductor.Decimal
