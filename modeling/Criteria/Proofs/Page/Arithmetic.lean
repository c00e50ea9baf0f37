import Criteria.Page
import Mathlib.Algebra.Order.Floor.Div

/-!
# The arithmetic of pages

Numbers and sizes of pages have 32 bits, offsets and counts of rows 64. What is computed of them
never leaves its range, so it can be told in natural numbers, and the functions that look at a page
from different sides agree: `Page.Exact`.
-/

namespace Criteria

theorem toNat_max (a b : UInt32) : (max a b).toNat = max a.toNat b.toNat := by
  change (if a ≤ b then b else a).toNat = _
  split <;> rename_i le <;> rw [UInt32.le_iff_toNat_le] at le <;> omega

theorem toNat_min (a b : UInt32) : (min a b).toNat = min a.toNat b.toNat := by
  change (if a ≤ b then a else b).toNat = _
  split <;> rename_i le <;> rw [UInt32.le_iff_toNat_le] at le <;> omega

/-! ## Requests -/

namespace PageRequest

variable (request : PageRequest)

theorem toNat_size_pos : 0 < request.size.toNat := UInt32.lt_iff_toNat_lt.mp request.size_pos

/-- The size of a page is cut to the limit, but never to nothing. -/
theorem toNat_size_clamp (limit : UInt32) :
    (request.clamp limit).size.toNat = min request.size.toNat (max limit.toNat 1) := by
  change (min request.size (max limit 1)).toNat = _
  rw [toNat_min, toNat_max]
  rfl

@[simp] theorem size_next : request.next.size = request.size := by
  unfold next
  split <;> rfl

/-- The last page number is followed by itself. -/
theorem toNat_number_next :
    request.next.number.toNat = min (request.number.toNat + 1) (2 ^ 32 - 1) := by
  have lt := request.number.toNat_lt
  unfold next
  split
  · rename_i last
    rw [last]
    rfl
  · rename_i other
    have apart : request.number.toNat ≠ 4294967295 := fun eq => other (UInt32.toNat_inj.mp eq)
    have one : (1 : UInt32).toNat = 1 := rfl
    rw [UInt32.toNat_add, one, Nat.mod_eq_of_lt (by omega)]
    omega

theorem next_of_last {request : PageRequest} (last : request.number.toNat = 2 ^ 32 - 1) :
    request.next = request := if_pos (UInt32.toNat_inj.mp last)

/-- All rows up to the end of a page can be counted in 64 bits. -/
theorem mul_add_lt : request.number.toNat * request.size.toNat + request.size.toNat < 2 ^ 64 := by
  have number := request.number.toNat_lt
  have size := request.size.toNat_lt
  calc request.number.toNat * request.size.toNat + request.size.toNat
      = (request.number.toNat + 1) * request.size.toNat := (Nat.succ_mul _ _).symm
    _ ≤ 2 ^ 32 * request.size.toNat := Nat.mul_le_mul_right _ number
    _ < 2 ^ 32 * 2 ^ 32 := Nat.mul_lt_mul_of_pos_left size (by decide)
    _ = 2 ^ 64 := by decide

theorem toNat_offset :
    request.offset.toNat = request.number.toNat * request.size.toNat := by
  have fits := request.mul_add_lt
  rw [offset, UInt64.toNat_mul, UInt32.toNat_toUInt64, UInt32.toNat_toUInt64]
  exact Nat.mod_eq_of_lt (by omega)

/-- The rows up to the end of the page. -/
theorem toNat_finish : (request.offset + request.size.toUInt64).toNat =
    request.offset.toNat + request.size.toNat := by
  rw [UInt64.toNat_add, UInt32.toNat_toUInt64, toNat_offset]
  exact Nat.mod_eq_of_lt request.mul_add_lt

/-- The place of the page, counted from one. -/
theorem toNat_number_add_one :
    (request.number.toUInt64 + 1).toNat = request.number.toNat + 1 := by
  have lt := request.number.toNat_lt
  have one : (1 : UInt64).toNat = 1 := rfl
  rw [UInt64.toNat_add, UInt32.toNat_toUInt64, one]
  exact Nat.mod_eq_of_lt (by omega)

end PageRequest

/-! ## Pages that answer a request -/

/-- Counted in whole pages, a number of rows that leaves a remainder takes one page more. -/
theorem ceilDiv_eq_ite {rows size : Nat} (pos : 0 < size) :
    rows ⌈/⌉ size = if rows % size = 0 then rows / size else rows / size + 1 := by
  split
  · rename_i whole
    obtain ⟨pages, rfl⟩ := Nat.dvd_of_mod_eq_zero whole
    rw [Nat.mul_div_cancel_left pages pos]
    exact smul_ceilDiv pos pages
  · rename_i partly
    apply le_antisymm
    · exact (ceilDiv_le_iff_le_mul pos).mpr (Nat.lt_mul_div_succ rows pos).le
    · apply Nat.lt_of_not_le
      intro le
      have covered := (ceilDiv_le_iff_le_mul pos).mp le
      have parts := Nat.div_add_mod rows size
      apply partly
      omega

namespace Page

variable {α : Type}

/-- The pages that it takes to hold all rows, the last of them perhaps not full. -/
theorem toNat_totalPages {page : Page α} (room : 0 < page.size) :
    page.totalPages.toNat = page.total.toNat ⌈/⌉ page.size.toNat := by
  have pos : 0 < page.size.toNat := UInt32.lt_iff_toNat_lt.mp room
  have sized : page.size.toUInt64 ≠ 0 := by
    intro zero
    rw [← UInt32.toNat_toUInt64, zero] at pos
    exact absurd pos (by decide)
  have rest : page.total % page.size.toUInt64 = 0 ↔ page.total.toNat % page.size.toNat = 0 := by
    rw [← UInt64.toNat_inj, UInt64.toNat_mod, UInt32.toNat_toUInt64]
    rfl
  have quotient : (page.total / page.size.toUInt64).toNat = page.total.toNat / page.size.toNat := by
    rw [UInt64.toNat_div, UInt32.toNat_toUInt64]
  unfold totalPages
  rw [if_neg sized, ceilDiv_eq_ite pos, ← quotient]
  simp only [rest]
  split
  · rfl
  · rename_i partly
    -- A quotient that leaves a remainder is smaller than the number of rows.
    have parts := Nat.div_add_mod page.total.toNat page.size.toNat
    have le := Nat.le_mul_of_pos_left (page.total.toNat / page.size.toNat) pos
    have lt := page.total.toNat_lt
    have one : (1 : UInt64).toNat = 1 := rfl
    rw [UInt64.toNat_add, one, Nat.mod_eq_of_lt (by omega)]

variable (items : List α) (request : PageRequest) (total : UInt64)

/-- There is a next page exactly when rows come after this one. -/
theorem hasNext_iff : (ofRequest items request total).hasNext ↔
    request.offset.toNat + request.size.toNat < total.toNat := by
  have pages : (ofRequest items request total).totalPages.toNat =
      total.toNat ⌈/⌉ request.size.toNat := toNat_totalPages request.size_pos
  calc (ofRequest items request total).hasNext = true
      ↔ request.number.toNat + 1 < total.toNat ⌈/⌉ request.size.toNat := by
        rw [← pages, ← request.toNat_number_add_one, ← UInt64.lt_iff_toNat_lt]
        exact decide_eq_true_iff
    _ ↔ ¬ total.toNat ≤ request.size.toNat * (request.number.toNat + 1) := by
        rw [← ceilDiv_le_iff_le_mul request.toNat_size_pos, Nat.not_le]
    _ ↔ request.offset.toNat + request.size.toNat < total.toNat := by
        rw [Nat.not_le, request.toNat_offset, Nat.mul_succ, Nat.mul_comm]

/-- What is computed of the page that answers a request is what it is in natural numbers: the rows
before the page, those up to its end, its place counted from one, and the pages that all rows take.
And there is a next page exactly when rows are left after this one. -/
structure Exact : Prop where
  offset : request.offset.toNat = request.number.toNat * request.size.toNat
  finish : (request.offset + request.size.toUInt64).toNat =
    request.offset.toNat + request.size.toNat
  place : (request.number.toUInt64 + 1).toNat = request.number.toNat + 1
  totalPages :
    (ofRequest items request total).totalPages.toNat = total.toNat ⌈/⌉ request.size.toNat
  hasNext_iff : (ofRequest items request total).hasNext ↔
    request.offset.toNat + request.size.toNat < total.toNat

theorem exact : Exact items request total where
  offset := request.toNat_offset
  finish := request.toNat_finish
  place := request.toNat_number_add_one
  totalPages := toNat_totalPages request.size_pos
  hasNext_iff := hasNext_iff items request total

end Page

end Criteria
