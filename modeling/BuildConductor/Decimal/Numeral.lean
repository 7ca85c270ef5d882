import BuildConductor.Decimal.Shortest

/-! Numerals: texts that say a number.

A numeral is an optional sign, decimal digits with at most one point among them,
and an optional exponent; the names of infinity and of the undefined number
count as well, in any mixture of small and capital letters. Nothing may stand
around it. -/
namespace BuildConductor.Decimal

/-- What a numeral says, its sign aside. -/
inductive Numeral where
  | undefined
  | infinite
  | finite (digits : Nat) (exponent : Int)
deriving DecidableEq, Repr

def digitValue (c : Char) : Nat :=
  c.toNat - '0'.toNat

/-- The number that a row of digits writes. -/
def ofDigits (cs : List Char) : Nat :=
  cs.foldl (fun n c => 10 * n + digitValue c) 0

/-- A row of digits and what follows it. -/
def spanDigits (cs : List Char) : List Char × List Char :=
  (cs.takeWhile Char.isDigit, cs.dropWhile Char.isDigit)

def dropSign (cs : List Char) : Bool × List Char :=
  match cs with
  | '-' :: rest => (true, rest)
  | '+' :: rest => (false, rest)
  | _ => (false, cs)

/-- The exponent that closes a numeral: nothing, or the letter and an integer. -/
def exponent? (cs : List Char) : Option Int :=
  match cs with
  | [] => some 0
  | c :: rest =>
    if c = 'e' ∨ c = 'E' then
      let (negative, rest) := dropSign rest
      match spanDigits rest with
      | (c :: digits, []) =>
        some (if negative then -(ofDigits (c :: digits) : Int) else ofDigits (c :: digits))
      | _ => none
    else
      none

/-- A numeral written with digits. -/
def finite? (cs : List Char) : Option Numeral :=
  let (whole, rest) := spanDigits cs
  let (fraction, rest) :=
    match rest with
    | '.' :: rest => spanDigits rest
    | _ => ([], rest)
  if whole.isEmpty && fraction.isEmpty then
    none
  else
    (exponent? rest).map fun e =>
      .finite (ofDigits (whole ++ fraction)) (e - fraction.length)

/-- The number a text says, its sign aside, if it says one. -/
def numeral? (cs : List Char) : Option Numeral :=
  let body := (dropSign cs).2
  match finite? body with
  | some n => some n
  | none =>
    let name := body.map Char.toLower
    if name = "inf".toList ∨ name = "infinity".toList then some .infinite
    else if name = "nan".toList then some .undefined
    else none

/-- Whether `digits / 10 ^ places` rounds to zero: it does up to half of the
smallest positive number. Places that by far outnumber the digits settle it
without computing the power. -/
def vanishes (digits places : Nat) : Bool :=
  digitCount digits + 324 ≤ places || digits * (2 * unitsPerOne) ≤ Nat.pow 10 places

/-- Whether a numeral reads as a binary64 zero. -/
def Numeral.isZero (n : Numeral) : Bool :=
  match n with
  | .undefined | .infinite => false
  | .finite digits exponent =>
    digits == 0 || (exponent < 0 && vanishes digits exponent.natAbs)

end BuildConductor.Decimal
