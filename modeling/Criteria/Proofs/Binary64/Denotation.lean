import Criteria.Binary64.Basic
import Mathlib.Algebra.Field.Rat
import Mathlib.Algebra.Order.Field.Basic
import Mathlib.Algebra.Order.Ring.Rat
import Mathlib.Tactic.FieldSimp
import Mathlib.Tactic.Ring

/-!
# The numbers that bit patterns denote

`Binary64.meaning` reads the three parts of a bit pattern as the standard has it: a rational number,
an infinity or no number. Finite numbers are multiples of the least positive one, as
`Binary64.scaled` counts them, and the pattern made from an integer of magnitude at most `2 ^ 53`
denotes that integer.
-/

namespace Criteria.Binary64

variable {x : Binary64} {negative : Bool} {exponent fraction n : Nat}

/-- What a bit pattern denotes. -/
inductive Meaning where
  | number (value : ℚ)
  | infinity (negative : Bool)
  | nan

/-- A stored exponent of all ones is kept for infinities and what is no number. One of zero stands
for the least exponent without a leading bit, and any other, less 1023, for itself with one. -/
def meaning (x : Binary64) : Meaning :=
  let sign : ℚ := if x.negative then -1 else 1
  if x.exponent = 2047 then if x.fraction = 0 then .infinity x.negative else .nan
  else if x.exponent = 0 then .number (sign * (x.fraction / 2 ^ 52) * 2 ^ (-1022 : ℤ))
  else .number (sign * (1 + x.fraction / 2 ^ 52) * 2 ^ ((x.exponent : ℤ) - 1023))

/-! ## Finite numbers -/

theorem isFinite_iff : x.isFinite = true ↔ x.exponent ≠ 2047 := by
  simp [isFinite]

/-- The exponent of the last place is 52 below the exponent, and both are counted from 1022 below
the other's. -/
theorem two_zpow_eq (place : Nat) :
    (2 : ℚ) ^ ((place + 1 : ℕ) - 1023 : ℤ) = 2 ^ place * 2 ^ 52 / 2 ^ 1074 := by
  have split : (2 : ℚ) ^ 1074 = 2 ^ 52 * 2 ^ 1022 := by rw [← pow_add]
  have shift : ((place + 1 : ℕ) - 1023 : ℤ) = place - (1022 : ℕ) := by omega
  rw [shift, zpow_sub₀ two_ne_zero, zpow_natCast, zpow_natCast, split]
  field_simp

theorem magnitude_of_exponent_eq_zero (subnormal : x.exponent = 0) : x.magnitude = x.fraction := by
  rw [magnitude, significand, place, if_pos subnormal, subnormal]
  exact Nat.mul_one _

theorem magnitude_of_exponent_ne_zero (normal : x.exponent ≠ 0) :
    x.magnitude = (2 ^ 52 + x.fraction) * 2 ^ (x.exponent - 1) := by
  rw [magnitude, significand, place, if_neg normal]
  rfl

/-- A finite number is as many times the least positive one as its pattern counts. -/
theorem meaning_of_isFinite (finite : x.isFinite = true) :
    x.meaning = .number (x.scaled / 2 ^ 1074) := by
  rw [isFinite_iff] at finite
  have signed : (x.scaled : ℚ) = (if x.negative then -1 else 1) * x.magnitude := by
    unfold scaled
    split <;> simp
  rw [signed, meaning, if_neg finite, mul_div_assoc]
  split
  case isTrue subnormal =>
    have least : (2 : ℚ) ^ (-1022 : ℤ) = 2 ^ 52 / 2 ^ 1074 := by
      rw [← one_mul ((2 : ℚ) ^ 52), ← pow_zero (2 : ℚ), ← two_zpow_eq 0]
      rfl
    rw [magnitude_of_exponent_eq_zero subnormal, least]
    congr 1
    field_simp
  case isFalse normal =>
    obtain ⟨place, shift⟩ := Nat.exists_eq_add_one_of_ne_zero normal
    rw [magnitude_of_exponent_ne_zero normal, shift, two_zpow_eq, Nat.add_sub_cancel]
    rw [Nat.cast_mul, Nat.cast_add, Nat.cast_pow, Nat.cast_pow, Nat.cast_ofNat]
    congr 1
    field_simp

theorem isFinite_of_meaning {value : ℚ} (h : x.meaning = .number value) : x.isFinite = true := by
  rw [isFinite_iff]
  intro special
  rw [meaning, if_pos special] at h
  split at h <;> cases h

/-- Finite numbers are in the order of how often they count the least positive one. -/
theorem scaled_lt_iff {y : Binary64} {p q : ℚ} (first : x.meaning = .number p)
    (second : y.meaning = .number q) : x.scaled < y.scaled ↔ p < q := by
  rw [meaning_of_isFinite (isFinite_of_meaning first)] at first
  rw [meaning_of_isFinite (isFinite_of_meaning second)] at second
  cases first
  cases second
  rw [div_lt_div_iff_of_pos_right (pow_pos two_pos 1074), Int.cast_lt]

/-! ## Patterns from their parts -/

theorem word_ofParts (exponent_lt : exponent < 2 ^ 11) (fraction_lt : fraction < 2 ^ 52) :
    (ofParts negative exponent fraction).word =
      (if negative then 2 ^ 63 else 0) + exponent * 2 ^ 52 + fraction := by
  simp only [word, ofParts, Nat.pow_eq]
  rw [UInt64.toNat_ofNat']
  refine Nat.mod_eq_of_lt ?_
  split <;> omega

theorem negative_ofParts (exponent_lt : exponent < 2 ^ 11) (fraction_lt : fraction < 2 ^ 52) :
    (ofParts negative exponent fraction).negative = negative := by
  rw [Binary64.negative, word_ofParts exponent_lt fraction_lt, Nat.pow_eq]
  cases negative <;> simp <;> omega

theorem exponent_ofParts (exponent_lt : exponent < 2 ^ 11) (fraction_lt : fraction < 2 ^ 52) :
    (ofParts negative exponent fraction).exponent = exponent := by
  rw [Binary64.exponent, word_ofParts exponent_lt fraction_lt, Nat.pow_eq, Nat.pow_eq]
  split <;> omega

theorem fraction_ofParts (exponent_lt : exponent < 2 ^ 11) (fraction_lt : fraction < 2 ^ 52) :
    (ofParts negative exponent fraction).fraction = fraction := by
  rw [Binary64.fraction, word_ofParts exponent_lt fraction_lt, Nat.pow_eq]
  split <;> omega

/-! ## Patterns of integers -/

theorem log2_le (pos : n ≠ 0) (le : n ≤ 2 ^ 53) : n.log2 ≤ 53 :=
  (Nat.pow_le_pow_iff_right Nat.one_lt_two).mp (Nat.le_trans (Nat.log2_self_le pos) le)

/-- The leading bit, and the others shifted up below it, are as many bits above the last place as
they have been shifted. -/
theorem significand_shifted (pos : n ≠ 0) (le : n ≤ 2 ^ 53) :
    (2 ^ 52 + n * 2 ^ (52 - n.log2) % 2 ^ 52) * 2 ^ (1022 + n.log2) = n * 2 ^ 1074 := by
  have low : 2 ^ n.log2 ≤ n := Nat.log2_self_le pos
  rcases Nat.lt_or_eq_of_le (log2_le pos le) with fits | top
  · have leading : 2 ^ n.log2 * 2 ^ (52 - n.log2) = 2 ^ 52 := by
      rw [← pow_add, Nat.add_sub_cancel' (Nat.le_of_lt_succ fits)]
    have above : 2 ^ 52 ≤ n * 2 ^ (52 - n.log2) := by
      rw [← leading]
      exact Nat.mul_le_mul_right _ low
    have below : n * 2 ^ (52 - n.log2) < 2 * 2 ^ 52 := by
      rw [← leading, ← Nat.mul_assoc, ← Nat.pow_succ']
      exact Nat.mul_lt_mul_of_pos_right Nat.lt_log2_self (Nat.two_pow_pos _)
    have whole : 2 ^ 52 + n * 2 ^ (52 - n.log2) % 2 ^ 52 = n * 2 ^ (52 - n.log2) := by omega
    rw [whole, Nat.mul_assoc, ← pow_add]
    congr 2
    omega
  · -- the one number of 54 bits is a power of two, none of whose bits is shifted out
    obtain rfl : n = 2 ^ 53 := Nat.le_antisymm le (top ▸ low)
    have unshifted : 2 ^ 53 * 2 ^ (52 - 53) % 2 ^ 52 = 0 := by decide
    rw [Nat.log2_two_pow, unshifted, Nat.add_zero, ← pow_add, ← pow_add]

/-- What the pattern of a number is made of: zero of nothing, and any other of its place and of what
comes below its leading bit. -/
theorem exists_ofParts_ofNat (negative : Bool) (le : n ≤ 2 ^ 53) : ∃ exponent fraction,
    exponent < 2047 ∧ fraction < 2 ^ 52 ∧ ofNat negative n = ofParts negative exponent fraction ∧
      (ofNat negative n).magnitude = n * 2 ^ 1074 := by
  by_cases zero : n = 0
  · have subnormal : (ofParts negative 0 0).exponent = 0 :=
      exponent_ofParts (by decide) (by decide)
    refine ⟨0, 0, by decide, by decide, if_pos zero, ?_⟩
    rw [ofNat, if_pos zero, magnitude_of_exponent_eq_zero subnormal,
      fraction_ofParts (by decide) (by decide), zero, Nat.zero_mul]
  · have log2_le := log2_le zero le
    have exponent_lt : 1023 + n.log2 < 2047 := by omega
    have fraction_lt : n * 2 ^ (52 - n.log2) % 2 ^ 52 < 2 ^ 52 := Nat.mod_lt _ (Nat.two_pow_pos 52)
    have made : ofNat negative n =
        ofParts negative (1023 + n.log2) (n * 2 ^ (52 - n.log2) % 2 ^ 52) := if_neg zero
    refine ⟨_, _, exponent_lt, fraction_lt, made, ?_⟩
    have exponent_eq : (ofNat negative n).exponent = 1023 + n.log2 := by
      rw [made, exponent_ofParts (by omega) fraction_lt]
    have fraction_eq : (ofNat negative n).fraction = n * 2 ^ (52 - n.log2) % 2 ^ 52 := by
      rw [made, fraction_ofParts (by omega) fraction_lt]
    have shifted : 1023 + n.log2 - 1 = 1022 + n.log2 := by omega
    rw [magnitude_of_exponent_ne_zero (by omega), exponent_eq, fraction_eq, shifted,
      significand_shifted zero le]

theorem meaning_ofNat (le : n ≤ 2 ^ 53) :
    (ofNat negative n).meaning = .number (if negative then -n else n) := by
  obtain ⟨exponent, fraction, exponent_lt, fraction_lt, made, counted⟩ :=
    exists_ofParts_ofNat negative le
  have finite : (ofNat negative n).isFinite = true := by
    rw [isFinite_iff, made, exponent_ofParts (by omega) fraction_lt]
    omega
  have signed : (ofNat negative n).negative = negative := by
    rw [made, negative_ofParts (by omega) fraction_lt]
  have units : ((n * 2 ^ 1074 : ℕ) : ℚ) = n * 2 ^ 1074 := by
    rw [Nat.cast_mul, Nat.cast_pow, Nat.cast_ofNat]
  rw [meaning_of_isFinite finite, scaled, signed, counted]
  congr 1
  rw [div_eq_iff (pow_ne_zero 1074 two_ne_zero)]
  cases negative with
  | false => rw [if_neg Bool.false_ne_true, if_neg Bool.false_ne_true, Int.cast_natCast, units]
  | true => rw [if_pos rfl, if_pos rfl, Int.cast_neg, Int.cast_natCast, units, neg_mul]

/-- An integer of magnitude at most `2 ^ 53` is what its pattern denotes. -/
theorem meaning_ofInt {n : Int} (le : n.natAbs ≤ 2 ^ 53) : (ofInt n).meaning = .number n := by
  rw [ofInt, meaning_ofNat le]
  congr 1
  rcases Int.lt_or_le n 0 with below | above
  · rw [decide_eq_true below, if_pos rfl, ← Int.cast_natCast, ← Int.cast_neg]
    congr 1
    omega
  · rw [decide_eq_false (Int.not_lt.mpr above), if_neg Bool.false_ne_true, ← Int.cast_natCast]
    congr 1
    omega

end Criteria.Binary64
