/-!
# Pages

Rows are asked for by page: a page number, counted from zero, and a size that is never zero. A page
that comes back knows how many rows there are in all. Numbers and sizes have 32 bits, counts of rows
64, and no product or sum of them leaves 64 bits.
-/

namespace Criteria

/-- A page asked for. -/
structure PageRequest where
  number : UInt32
  size : UInt32
  size_pos : 0 < size
deriving DecidableEq

namespace PageRequest

/-- The request for a page, unless the size is zero. -/
def of? (number size : UInt32) : Option PageRequest :=
  if h : 0 < size then some ⟨number, size, h⟩ else none

/-- The request for the first page. -/
def first? (size : UInt32) : Option PageRequest := of? 0 size

/-- The rows before the page. -/
def offset (request : PageRequest) : UInt64 := request.number.toUInt64 * request.size.toUInt64

/-- The request for the page after; there is none after the last page number. -/
def next (request : PageRequest) : PageRequest :=
  if request.number = 4294967295 then request
  else { request with number := request.number + 1 }

/-- The same page number with a size of at most `limit`; a limit of zero counts as one. -/
def clamp (request : PageRequest) (limit : UInt32) : PageRequest where
  number := request.number
  size := min request.size (max limit 1)
  size_pos := by
    have pos := request.size_pos
    simp only [Min.min, Max.max]
    split <;> split <;> grind

end PageRequest

/-- A page of rows, with the number of all rows. -/
structure Page (α : Type) where
  items : List α
  number : UInt32
  size : UInt32
  total : UInt64
deriving DecidableEq

namespace Page

variable {α β : Type}

/-- The answer to a request. -/
def ofRequest (items : List α) (request : PageRequest) (total : UInt64) : Page α :=
  ⟨items, request.number, request.size, total⟩

/-- The pages that it takes to hold all rows; none when a page holds no row. -/
def totalPages (page : Page α) : UInt64 :=
  let size := page.size.toUInt64
  if size = 0 then 0
  else if page.total % size = 0 then page.total / size
  else page.total / size + 1

/-- Whether rows come after this page. -/
def hasNext (page : Page α) : Bool := page.number.toUInt64 + 1 < page.totalPages

/-- Whether a page comes before this one. -/
def hasPrevious (page : Page α) : Bool := 0 < page.number

/-- The page with every item replaced by another. -/
def map (f : α → β) (page : Page α) : Page β := { page with items := page.items.map f }

end Page

end Criteria
