/-! Finite binary64 numbers in exact arithmetic.

A number is a sign, a significand and a power of two, all of them naturals, so
that every operation can be computed and reasoned about exactly and rounded
once. Rounding goes to the nearest representable number, a tie to the one whose
significand is even. Powers are written `Nat.pow`, which means the same whatever
else is imported. -/
namespace BuildConductor.Decimal

/-- The number `± significand · 2 ^ shift`, counted in units of `2 ^ -1074`. -/
structure Binary64 where
  negative : Bool
  significand : Nat
  shift : Nat
deriving DecidableEq, Repr, Inhabited

/-- How many of the smallest positive numbers make one. -/
def unitsPerOne : Nat := Nat.pow 2 1074

/-- The quotient rounded to a natural number, a tie to the even neighbour. -/
def roundQuotient (num den : Nat) : Nat :=
  let q := num / den
  let r := num % den
  if 2 * r < den then q
  else if den < 2 * r then q + 1
  else if q % 2 = 0 then q
  else q + 1

/-- A rounded quotient is a neighbour of the exact one. -/
theorem roundQuotient_eq_or (num den : Nat) :
    roundQuotient num den = num / den ∨ roundQuotient num den = num / den + 1 := by
  unfold roundQuotient
  simp only
  repeat' split
  all_goals simp

namespace Binary64

def zero : Binary64 := ⟨false, 0, 0⟩

def isZero (x : Binary64) : Bool :=
  x.significand == 0

/-- The magnitude in units. -/
def units (x : Binary64) : Nat :=
  x.significand * Nat.pow 2 x.shift

/-- The number nearest to `num / den` with the given sign, unless it is too large
to be finite. The significand has 53 bits. -/
def ofRatio? (negative : Bool) (num den : Nat) : Option Binary64 :=
  let shift := (num * unitsPerOne / den).log2 + 1 - 53
  let significand := roundQuotient (num * unitsPerOne) (den * Nat.pow 2 shift)
  let x : Binary64 :=
    if significand = Nat.pow 2 53 then ⟨negative, Nat.pow 2 52, shift + 1⟩
    else ⟨negative, significand, shift⟩
  if 2045 < x.shift then none else some x

def ofNat? (n : Nat) : Option Binary64 :=
  ofRatio? false n 1

def mul? (x y : Binary64) : Option Binary64 :=
  ofRatio? (x.negative != y.negative) (x.units * y.units) (unitsPerOne * unitsPerOne)

/-- The quotient by a number that is not zero. -/
def div? (x y : Binary64) : Option Binary64 :=
  ofRatio? (x.negative != y.negative) x.units y.units

/-- The largest exponent of a power of ten that is itself a finite number. -/
def largestPower : Nat := 308

def powerOfTen? (exponent : Nat) : Option Binary64 :=
  ofNat? (Nat.pow 10 exponent)

/-- The quotient by a power of ten, in one rounding. -/
def divPower? (x : Binary64) (exponent : Nat) : Option Binary64 :=
  (powerOfTen? exponent).bind x.div?

/-- `x` divided `steps` times by the largest power of ten. -/
def divLargest? (x : Binary64) : Nat → Option Binary64
  | 0 => some x
  | steps + 1 =>
    if x.isZero then some x
    else (x.divPower? largestPower).bind fun y => y.divLargest? steps

/-- Division by a power of ten, in steps no power of which is too large. -/
def shrink? (x : Binary64) (exponent : Nat) : Option Binary64 :=
  let steps := (exponent - 1) / largestPower
  (x.divLargest? steps).bind fun y => y.divPower? (exponent - steps * largestPower)

/-- `x · 10 ^ exponent`, each step rounded. `none` stands for a result that is
too large. -/
def scale? (x : Binary64) (exponent : Int) : Option Binary64 :=
  if exponent < 0 then x.shrink? exponent.natAbs
  else if exponent.toNat ≤ largestPower then (powerOfTen? exponent.toNat).bind x.mul?
  else if x.isZero then some x
  else none

end Binary64

end BuildConductor.Decimal
