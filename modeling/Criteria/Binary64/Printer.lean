import Criteria.Binary64.Shortest

/-!
# Decimal texts of a number

Two layouts of the same shortest digits: the plain one, always positional, and the exact one, which
keeps a fractional digit and turns to powers of ten for the very large and the very small.
-/

namespace Criteria.Binary64

/-- Digits with a point before the place `exponent`, without a fraction when there is none. -/
def positional (d : Decimal) : String :=
  let digits := Nat.toDigits 10 d.digits
  let whole : Int := digits.length + d.exponent
  if 0 ≤ d.exponent then
    String.ofList (digits ++ List.replicate d.exponent.toNat '0')
  else if 0 < whole then
    String.ofList (digits.take whole.toNat ++ ['.'] ++ digits.drop whole.toNat)
  else
    String.ofList (['0', '.'] ++ List.replicate (-whole).toNat '0' ++ digits)

/-- One digit, the others after a point, and the power of ten. -/
def scientific (d : Decimal) : String :=
  let digits := Nat.toDigits 10 d.digits
  let power : Int := digits.length + d.exponent - 1
  let fraction := if digits.length = 1 then [] else '.' :: digits.drop 1
  String.ofList (digits.take 1 ++ fraction ++ ['e']) ++ toString power

/-- The exact layout: positional with at least one fractional digit from `10 ^ -4` up to
`10 ^ 16`, else scientific. -/
def exactLayout (d : Decimal) : String :=
  let power : Int := (Nat.toDigits 10 d.digits).length + d.exponent - 1
  if -4 ≤ power ∧ power < 16 then
    if 0 ≤ d.exponent then positional d ++ ".0" else positional d
  else scientific d

/-- A sign, and the layout of the digits or the name of what has none. -/
def print (zero : String) (layout : Decimal → String) (x : Binary64) : String :=
  if x.isNaN then "NaN"
  else
    (if x.negative then "-" else "") ++
      if x.isInfinite then "inf"
      else if x.magnitude = 0 then zero
      else layout x.shortest

/-- The text in which a whole number cannot be taken for an integer. -/
def exactText (x : Binary64) : String := x.print "0.0" exactLayout

/-- The text with digits alone, however many it takes. -/
def plainText (x : Binary64) : String := x.print "0" positional

end Criteria.Binary64
