import Criteria.Value.Basic

/-!
# Operators of filter fields

The operator of a field says how its value is compared with the column that the field names.
-/

namespace Criteria

/-- The comparisons that a filter field can ask for. -/
inductive Operator where
  | equal
  | notEqual
  | like
  | among
  | lessThan
  | greaterThan
deriving DecidableEq, Repr

namespace Operator

/-- A field without any operator is compared for equality. -/
instance : Inhabited Operator := ⟨equal⟩

/-- The stable name, used in text and wherever an operator is stored. -/
def name : Operator → String
  | equal => "EQUAL"
  | notEqual => "NOT_EQUAL"
  | like => "LIKE"
  | among => "IN"
  | lessThan => "LESS_THAN"
  | greaterThan => "GREATER_THAN"

def all : List Operator := [equal, notEqual, like, among, lessThan, greaterThan]

/-- The operator of exactly this name. -/
def ofName? (name : String) : Option Operator := all.find? (·.name = name)

@[simp]
theorem ofName?_name (op : Operator) : ofName? op.name = some op := by cases op <;> decide

theorem ofName?_eq_some_iff {name : String} {op : Operator} :
    ofName? name = some op ↔ name = op.name := by
  refine ⟨fun h => ?_, fun h => h ▸ ofName?_name op⟩
  have := List.find?_some h
  simpa [eq_comm] using this

/-- The path of the enumeration under which an operator is stored as a value. -/
def path : String := "Operator"

/-- An operator as a value: the variant of its name. -/
def toTag (op : Operator) : Tag := ⟨op.name, some path⟩

/-- The operator that a variant stores. A variant without a path counts, one with another path does
not. -/
def ofTag? (tag : Tag) : Option Operator :=
  if tag.path.all (· = path) then ofName? tag.variant else none

@[simp]
theorem ofTag?_toTag (op : Operator) : ofTag? op.toTag = some op := by
  simp [ofTag?, toTag]

end Operator

end Criteria
