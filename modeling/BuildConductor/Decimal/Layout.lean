import BuildConductor.Decimal.Shortest

/-! The written form of a number.

The digits of a number are chosen once, in `Decimal.Shortest`; where the point
goes, and when an exponent is written, is a matter of the format. -/
namespace BuildConductor.Decimal

/-- Leading exponents from `least` to `greatest` are written positionally. -/
structure Layout where
  least : Int
  greatest : Int

def zeros (n : Nat) : List Char :=
  List.replicate n '0'

/-- Digits with a point somewhere among, before or after them; there is always a
digit on both sides of it. -/
def positional (digits : List Char) (leading : Int) : List Char :=
  if leading < 0 then
    '0' :: '.' :: zeros (leading.natAbs - 1) ++ digits
  else if digits.length ≤ leading.toNat + 1 then
    digits ++ zeros (leading.toNat + 1 - digits.length) ++ ['.', '0']
  else
    digits.take (leading.toNat + 1) ++ '.' :: digits.drop (leading.toNat + 1)

/-- One digit, a point if more follow, and the exponent with its sign. -/
def scientific (digits : List Char) (leading : Int) : List Char :=
  digits.take 1 ++ (if digits.length ≤ 1 then [] else '.' :: digits.drop 1) ++
    'e' :: (if leading < 0 then '-' else '+') :: Nat.toDigits 10 leading.natAbs

def Layout.magnitude (layout : Layout) (d : Scaled) : List Char :=
  let digits := Nat.toDigits 10 d.digits
  let leading := d.exponent + digits.length - 1
  if layout.least ≤ leading ∧ leading ≤ layout.greatest then positional digits leading
  else scientific digits leading

/-- The text of a number: zero keeps its sign. -/
def Layout.text (layout : Layout) (x : Binary64) : List Char :=
  let magnitude := if x.isZero then ['0', '.', '0'] else layout.magnitude x.shortest
  if x.negative then '-' :: magnitude else magnitude

/-- Numbers from `10 ^ -5` up to below `10 ^ 16` are written positionally. -/
def documentLayout : Layout := ⟨-5, 15⟩

end BuildConductor.Decimal
