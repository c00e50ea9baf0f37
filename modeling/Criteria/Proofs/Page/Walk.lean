import Criteria.Proofs.Page.Arithmetic
import Mathlib.Data.List.Intervals
import Mathlib.Logic.Function.Iterate

/-!
# Walks through pages

A walk asks for one page after the other, for as long as the page that comes back has a next one:
`Walk.step`. Through the pages of an engine that numbers its rows, a walk that begins at the first
page gets every row once and in order, unless there are more rows than all page numbers reach. Then
it comes to the last page number and asks for that page again and again: `Walk.Visits`.
-/

namespace Criteria

/-! ## Pages further on -/

namespace PageRequest

variable (first : PageRequest)

/-- The request so many pages further on. -/
def ahead (pages : Nat) : PageRequest := next^[pages] first

theorem ahead_succ (pages : Nat) : first.ahead (pages + 1) = (first.ahead pages).next :=
  Function.iterate_succ_apply' next pages first

@[simp] theorem size_ahead (pages : Nat) : (first.ahead pages).size = first.size := by
  induction pages with
  | zero => rfl
  | succ pages ih => rw [ahead_succ, size_next, ih]

/-- Page numbers go up by one until the last. -/
theorem toNat_number_ahead (pages : Nat) :
    (first.ahead pages).number.toNat = min (first.number.toNat + pages) (2 ^ 32 - 1) := by
  induction pages with
  | zero =>
    have lt := first.number.toNat_lt
    change first.number.toNat = _
    omega
  | succ pages ih =>
    rw [ahead_succ, toNat_number_next, ih]
    omega

end PageRequest

/-! ## Walks -/

/-- A walk through pages: those that it has got, and the request that it makes next unless it is
over. -/
structure Walk (α : Type) where
  pages : List (Page α)
  request? : Option PageRequest

namespace Walk

section

variable {α : Type} (answer : PageRequest → Page α) (first : PageRequest) {steps last : Nat}

/-- Makes the next request. The walk is over when the page that comes back has no next one. -/
def step (walk : Walk α) : Walk α :=
  match walk.request? with
  | none => walk
  | some request =>
    let page := answer request
    ⟨walk.pages ++ [page], if page.hasNext then some request.next else none⟩

/-- The walk that begins with a request, after so many steps. -/
def after (steps : Nat) : Walk α := (step answer)^[steps] ⟨[], some first⟩

theorem after_succ (steps : Nat) :
    after answer first (steps + 1) = step answer (after answer first steps) :=
  Function.iterate_succ_apply' (step answer) steps _

variable {answer first}

/-- A walk goes on while all pages have a next one. -/
theorem after_of_hasNext (goes : ∀ k < steps, (answer (first.ahead k)).hasNext) :
    after answer first steps =
      ⟨(List.range steps).map fun k => answer (first.ahead k), some (first.ahead steps)⟩ := by
  induction steps with
  | zero => rfl
  | succ steps ih =>
    rw [after_succ, ih fun k lt => goes k (by omega)]
    simp only [step, goes steps (by omega), if_true, List.range_succ, List.map_append,
      List.map_singleton, first.ahead_succ]

/-- It is over with the first page that has none. -/
theorem after_of_last (goes : ∀ k < last, (answer (first.ahead k)).hasNext)
    (stops : ¬ (answer (first.ahead last)).hasNext) (lt : last < steps) :
    after answer first steps =
      ⟨(List.range (last + 1)).map fun k => answer (first.ahead k), none⟩ := by
  induction steps, lt using Nat.le_induction with
  | base =>
    rw [after_succ, after_of_hasNext goes]
    simp only [step, if_neg stops, List.range_succ, List.map_append, List.map_singleton]
  | succ steps _ ih =>
    rw [after_succ, ih]
    rfl

/-- A walk is over after so many pages, and not before, and has then got these items. -/
structure Ends (answer : PageRequest → Page α) (first : PageRequest) (count : Nat)
    (items : List α) : Prop where
  over_iff : ∀ steps, (after answer first steps).request? = none ↔ count ≤ steps
  length_pages : ∀ steps, count ≤ steps → (after answer first steps).pages.length = count
  items_eq : ∀ steps, count ≤ steps →
    (after answer first steps).pages.flatMap (·.items) = items

theorem ends_of_last (goes : ∀ k < last, (answer (first.ahead k)).hasNext)
    (stops : ¬ (answer (first.ahead last)).hasNext) :
    Ends answer first (last + 1)
      ((List.range (last + 1)).flatMap fun k => (answer (first.ahead k)).items) where
  over_iff steps := by
    by_cases past : last < steps
    · rw [after_of_last goes stops past]
      exact iff_of_true rfl past
    · rw [after_of_hasNext fun k lt => goes k (by omega)]
      exact iff_of_false nofun past
  length_pages steps past := by
    rw [after_of_last goes stops past, List.length_map, List.length_range]
  items_eq steps past := by
    rw [after_of_last goes stops past, List.flatMap_map]

end

end Walk

/-! ## Pages of numbered rows -/

/-- The page of an engine that numbers its rows from zero: those from the offset on, as many as the
page has room for and there are. -/
def Page.numbered (total : UInt64) (request : PageRequest) : Page Nat :=
  let finish := request.offset.toNat + request.size.toNat
  .ofRequest (List.Ico request.offset.toNat (min finish total.toNat)) request total

/-- Parts of one size that follow each other up to an end make up all before it. -/
theorem flatMap_Ico_eq_range (size total parts : Nat) :
    ((List.range parts).flatMap fun k => List.Ico (k * size) (min (k * size + size) total)) =
      List.range (min (parts * size) total) := by
  induction parts with
  | zero => simp
  | succ parts ih =>
    rw [List.range_succ, List.flatMap_append, ih, List.flatMap_singleton, Nat.succ_mul]
    simp only [← List.Ico.zero_bot]
    by_cases le : parts * size ≤ total
    · rw [min_eq_left le]
      apply List.Ico.append_consecutive (Nat.zero_le _)
      omega
    · have none_left : List.Ico (parts * size) (min (parts * size + size) total) = [] := by
        apply List.Ico.eq_nil_of_le
        omega
      rw [none_left, List.append_nil]
      congr 1
      omega

namespace Walk

variable {total : UInt64} {first : PageRequest}

/-- Of the pages ahead of the first, those with a number of their own have the next rows. -/
theorem items_numbered (start : first.number = 0) {k : Nat} (lt : k < 2 ^ 32) :
    (Page.numbered total (first.ahead k)).items =
      List.Ico (k * first.size.toNat)
        (min (k * first.size.toNat + first.size.toNat) total.toNat) := by
  have number : (first.ahead k).number.toNat = k := by
    rw [first.toNat_number_ahead, start]
    change min (0 + k) _ = k
    omega
  simp only [Page.numbered, Page.ofRequest, PageRequest.toNat_offset, number,
    PageRequest.size_ahead]

theorem hasNext_numbered (start : first.number = 0) (k : Nat) :
    (Page.numbered total (first.ahead k)).hasNext ↔
      (min k (2 ^ 32 - 1) + 1) * first.size.toNat < total.toNat := by
  have number : (first.ahead k).number.toNat = min k (2 ^ 32 - 1) := by
    rw [first.toNat_number_ahead, start]
    change min (0 + k) _ = _
    rw [Nat.zero_add]
  rw [Page.numbered, Page.hasNext_iff, PageRequest.toNat_offset, number, PageRequest.size_ahead,
    Nat.succ_mul]

/-- When page numbers reach all rows, the last page is the first one that has no next. -/
theorem exists_last (start : first.number = 0)
    (reached : total.toNat ≤ first.size.toNat * 2 ^ 32) :
    ∃ last, last + 1 = max 1 (Page.numbered total first).totalPages.toNat ∧ last < 2 ^ 32 ∧
      total.toNat ≤ (last + 1) * first.size.toNat ∧
      (∀ k < last, (Page.numbered total (first.ahead k)).hasNext) ∧
      ¬ (Page.numbered total (first.ahead last)).hasNext := by
  have covers : ∀ {count}, total.toNat ⌈/⌉ first.size.toNat ≤ count ↔
      total.toNat ≤ count * first.size.toNat := by
    intro count
    rw [ceilDiv_le_iff_le_mul first.toNat_size_pos, Nat.mul_comm]
  have few : total.toNat ⌈/⌉ first.size.toNat ≤ 2 ^ 32 := covers.mpr (by omega)
  have pages : (Page.numbered total first).totalPages.toNat = total.toNat ⌈/⌉ first.size.toNat :=
    Page.toNat_totalPages first.size_pos
  rw [pages]
  have enough : total.toNat ≤
      (max 1 (total.toNat ⌈/⌉ first.size.toNat) - 1 + 1) * first.size.toNat := by
    apply covers.mp
    omega
  refine ⟨max 1 (total.toNat ⌈/⌉ first.size.toNat) - 1, by omega, by omega, enough, ?_, ?_⟩
  · intro k lt
    rw [hasNext_numbered start, ← Nat.not_le, ← covers]
    omega
  · rw [hasNext_numbered start, min_eq_left (by omega)]
    exact Nat.not_lt.mpr enough

/-- The first pages have the first rows. -/
theorem flatMap_items_numbered (start : first.number = 0) {count : Nat} (le : count ≤ 2 ^ 32) :
    ((List.range count).flatMap fun k => (Page.numbered total (first.ahead k)).items) =
      List.range (min (count * first.size.toNat) total.toNat) := by
  rw [← flatMap_Ico_eq_range]
  apply List.flatMap_congr
  intro k mem
  have lt := List.mem_range.mp mem
  exact items_numbered start (by omega)

/-- When page numbers reach all rows, a walk gets them all. -/
theorem ends_numbered (start : first.number = 0)
    (reached : total.toNat ≤ first.size.toNat * 2 ^ 32) :
    Ends (.numbered total) first (max 1 (Page.numbered total first).totalPages.toNat)
      (List.range total.toNat) := by
  obtain ⟨last, count_eq, lt, enough, goes, stops⟩ := exists_last start reached
  have ends := ends_of_last goes stops
  rwa [flatMap_items_numbered start lt, min_eq_right enough, count_eq] at ends

/-- When they do not, every page has a next one. -/
theorem hasNext_numbered_of_lt (start : first.number = 0)
    (beyond : first.size.toNat * 2 ^ 32 < total.toNat) (k : Nat) :
    (Page.numbered total (first.ahead k)).hasNext := by
  rw [hasNext_numbered start]
  calc (min k (2 ^ 32 - 1) + 1) * first.size.toNat
      ≤ 2 ^ 32 * first.size.toNat := Nat.mul_le_mul_right _ (by omega)
    _ < total.toNat := by omega

/-- What a walk through numbered rows comes to that begins with a request. When page numbers reach
all rows, it is over after the pages that these take, one if there are none, and has got every row
once and in order. Else it never is: it goes up to the last page number, where there is a next page
but the next request is the same. What is computed on the way is exact, for any page that answers a
request. -/
structure Visits (total : UInt64) (first : PageRequest) : Prop where
  ends : total.toNat ≤ first.size.toNat * 2 ^ 32 →
    Ends (.numbered total) first (max 1 (Page.numbered total first).totalPages.toNat)
      (List.range total.toNat)
  goes_on : first.size.toNat * 2 ^ 32 < total.toNat → ∀ steps,
    ∃ request, (after (.numbered total) first steps).request? = some request ∧
      request.number.toNat = min steps (2 ^ 32 - 1) ∧
      (Page.numbered total request).hasNext ∧
      (request.number.toNat = 2 ^ 32 - 1 → request.next = request)
  exact : ∀ {α : Type} (items : List α) (request : PageRequest), Page.Exact items request total

/-- A walk from the first page comes to that, whatever the number of rows and the size of pages. -/
theorem exists_first_visits (total : UInt64) {size : UInt32} (room : 1 ≤ size) :
    ∃ first, PageRequest.first? size = some first ∧ first.size = size ∧ Visits total first := by
  have pos : 0 < size := UInt32.lt_of_lt_of_le (by decide) room
  refine ⟨⟨0, size, pos⟩, dif_pos pos, rfl, ?_⟩
  constructor
  case ends => exact ends_numbered rfl
  case goes_on =>
    intro beyond steps
    have goes := hasNext_numbered_of_lt rfl beyond
    refine ⟨PageRequest.ahead _ steps, ?_, ?_, goes steps, PageRequest.next_of_last⟩
    · rw [after_of_hasNext fun k _ => goes k]
    · rw [PageRequest.toNat_number_ahead]
      exact congrArg (min · _) (Nat.zero_add steps)
  case exact =>
    intro α items request
    exact Page.exact items request total

/-- Twenty-five rows by ten take three pages. By one, a row more than there are page numbers is
never reached: the walk asks for the last page again and again. -/
theorem visits_tens_and_ones : (1 : UInt32) ≤ 10 ∧ (1 : UInt32) ≤ 1 ∧
    (∃ first, PageRequest.first? 10 = some first ∧
      (after (.numbered 25) first 3).request? = none ∧
      (after (.numbered 25) first 3).pages.flatMap (·.items) = List.range 25) ∧
    ∃ first, PageRequest.first? 1 = some first ∧ ∀ steps, 2 ^ 32 - 1 ≤ steps →
      ∃ request, (after (.numbered 4294967297) first steps).request? = some request ∧
        request.number = 4294967295 ∧ request.next = request := by
  have room : (1 : UInt32) ≤ 10 := by decide
  have room' : (1 : UInt32) ≤ 1 := by decide
  refine ⟨room, room', ?_, ?_⟩
  · obtain ⟨first, isFirst, -, visits⟩ := exists_first_visits 25 room
    obtain rfl := Option.some.inj isFirst
    have ends := visits.ends (by decide)
    exact ⟨_, rfl, (ends.over_iff 3).mpr (by decide), ends.items_eq 3 (by decide)⟩
  · obtain ⟨first, isFirst, -, visits⟩ := exists_first_visits 4294967297 room'
    obtain rfl := Option.some.inj isFirst
    refine ⟨_, rfl, fun steps far => ?_⟩
    obtain ⟨request, asked, number, -, same⟩ := visits.goes_on (by decide) steps
    rw [min_eq_right far] at number
    exact ⟨request, asked, UInt32.toNat_inj.mp number, same number⟩

end Walk

end Criteria
