/-!
# IEEE 754 binary64 numbers as bit patterns

A number is kept as its 64 bits, so that a filter value is carried exactly as it was given and
every question about it is a question about naturals. The magnitude of a finite number is counted
in units of `2 ^ -1074`, the least positive number, of which every finite number is a whole
multiple.
-/

namespace Criteria

/-- A binary64 number, given by its bits: sign, eleven bits of exponent, 52 bits of fraction. -/
@[ext]
structure Binary64 where
  bits : UInt64
deriving DecidableEq, Repr, Inhabited

namespace Binary64

/-! ## The parts of a bit pattern -/

/-- The bits as a natural number. -/
def word (x : Binary64) : Nat := x.bits.toNat

/-- Whether the sign bit is set. -/
def negative (x : Binary64) : Bool := Nat.pow 2 63 ≤ x.word

/-- The stored exponent. -/
def exponent (x : Binary64) : Nat := x.word / Nat.pow 2 52 % Nat.pow 2 11

/-- The stored fraction. -/
def fraction (x : Binary64) : Nat := x.word % Nat.pow 2 52

def isNaN (x : Binary64) : Bool := x.exponent = 2047 && x.fraction ≠ 0

def isInfinite (x : Binary64) : Bool := x.exponent = 2047 && x.fraction = 0

/-- Neither infinite nor a NaN. -/
def isFinite (x : Binary64) : Bool := x.exponent ≠ 2047

/-! ## The number denoted -/

/-- The significand as a whole number: the leading bit is implicit unless the stored exponent is
zero. -/
def significand (x : Binary64) : Nat :=
  if x.exponent = 0 then x.fraction else Nat.pow 2 52 + x.fraction

/-- The exponent of the last place, counted from the least positive number. -/
def place (x : Binary64) : Nat := x.exponent - 1

/-- The magnitude of a finite number in units of `2 ^ -1074`. -/
def magnitude (x : Binary64) : Nat := x.significand * Nat.pow 2 x.place

/-- A finite number in units of `2 ^ -1074`. -/
def scaled (x : Binary64) : Int :=
  if x.negative then -(x.magnitude : Int) else x.magnitude

/-- Equality of numbers: a NaN equals nothing, the two zeros are equal, and otherwise the bits
decide. -/
def same (x y : Binary64) : Bool :=
  !x.isNaN && !y.isNaN && (x == y || (x.magnitude = 0 && y.magnitude = 0))

/-! ## Numbers from whole numbers and from single precision -/

/-- The pattern with the given sign, stored exponent and fraction. -/
def ofParts (negative : Bool) (exponent fraction : Nat) : Binary64 :=
  ⟨.ofNat ((if negative then Nat.pow 2 63 else 0) + exponent * Nat.pow 2 52 + fraction)⟩

/-- A whole number of at most 53 bits, or a power of two: the leading bit goes into the exponent
and the others, shifted to the top, are the fraction. -/
def ofNat (negative : Bool) (n : Nat) : Binary64 :=
  if n = 0 then ofParts negative 0 0
  else ofParts negative (1023 + n.log2) (n * Nat.pow 2 (52 - n.log2) % Nat.pow 2 52)

/-- An integer of magnitude at most `2 ^ 53`. -/
def ofInt (n : Int) : Binary64 := ofNat (n < 0) n.natAbs

/-- Widening from binary32: eight bits of exponent and 23 of fraction. A subnormal one is a whole
multiple of `2 ^ -149` and gets its leading bit made implicit. -/
def ofSingle (bits : UInt32) : Binary64 :=
  let word := bits.toNat
  let negative : Bool := Nat.pow 2 31 ≤ word
  let exponent := word / Nat.pow 2 23 % Nat.pow 2 8
  let fraction := word % Nat.pow 2 23
  if exponent = 255 then ofParts negative 2047 (fraction * Nat.pow 2 29)
  else if exponent ≠ 0 then ofParts negative (exponent + 896) (fraction * Nat.pow 2 29)
  else if fraction = 0 then ofParts negative 0 0
  else
    ofParts negative (874 + fraction.log2)
      (fraction * Nat.pow 2 (52 - fraction.log2) % Nat.pow 2 52)

end Binary64

end Criteria
