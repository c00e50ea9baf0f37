import Criteria.Binary64.Basic

/-!
# The shortest decimal that reads back

Of all decimals that round to a given number, the one on the coarsest decimal grid has the fewest
digits. All is done on naturals: a quarter of the least positive number is the unit in which the
number and the midpoints to its two neighbours are whole.
-/

namespace Criteria.Binary64

/-- The decimal `digits * 10 ^ exponent`. -/
structure Decimal where
  digits : Nat
  exponent : Int
deriving DecidableEq, Repr

/-- The decimal `a * 10 ^ e` over the denominator `2 ^ 1076`, times ten as often as `e` is below
zero. -/
def onGrid (a : Nat) (e : Int) : Nat :=
  a * Nat.pow 10 e.toNat * Nat.pow 2 1076

/-- The quantity `b * 2 ^ -1076` over the denominator of `onGrid _ e`. -/
def offGrid (b : Nat) (e : Int) : Nat := b * Nat.pow 10 (-e).toNat

/-- The reals that round to a positive finite number, in units of `2 ^ -1076`. The gap below a
power of two is half the gap above it, and the ends belong to the interval when the significand is
even. -/
structure Interval where
  lower : Nat
  middle : Nat
  upper : Nat
  closed : Bool

def interval (x : Binary64) : Interval :=
  let gap := Nat.pow 2 x.place
  let below := if x.significand = Nat.pow 2 52 ∧ 0 < x.place then gap else 2 * gap
  { lower := 4 * x.magnitude - below
    middle := 4 * x.magnitude
    upper := 4 * x.magnitude + 2 * gap
    closed := x.significand % 2 = 0 }

/-- Whether `digits * 10 ^ e` lies in the interval. -/
def Interval.holds (i : Interval) (digits : Nat) (e : Int) : Bool :=
  let d := onGrid digits e
  if i.closed then offGrid i.lower e ≤ d && d ≤ offGrid i.upper e
  else offGrid i.lower e < d && d < offGrid i.upper e

/-- The point of the grid of step `10 ^ e` that lies in the interval: of its two points next to the
middle the one inside, of two inside the nearer, and of two equally near the upper. -/
def Interval.point? (i : Interval) (e : Int) : Option Nat :=
  let step := onGrid 1 e
  let middle := offGrid i.middle e
  let low := middle / step
  match i.holds low e, i.holds (low + 1) e with
  | true, true => some (if 2 * (middle % step) < step then low else low + 1)
  | true, false => some low
  | false, true => some (low + 1)
  | false, false => none

/-- The first grid with a point in the interval, from the step `10 ^ e` on and ever finer. The grid
of step `10 ^ -1074` holds the number itself. -/
def shortestFrom (x : Binary64) (i : Interval) : Nat → Int → Decimal
  | 0, _ => ⟨x.magnitude * Nat.pow 5 1074, -1074⟩
  | fuel + 1, e =>
    match i.point? e with
    | some d => ⟨d, e⟩
    | none => shortestFrom x i fuel (e - 1)

/-- The fewest digits that read back as the magnitude of a finite number other than zero. -/
def shortest (x : Binary64) : Decimal :=
  shortestFrom x x.interval (309 + 1074) 309

end Criteria.Binary64
