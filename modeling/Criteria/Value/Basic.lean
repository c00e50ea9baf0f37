import Criteria.Binary64.Basic

/-!
# Values of filter fields

A value is what a filter holds for one of its fields and what a predicate compares a column with.
Null stands for a field that is not set.
-/

namespace Criteria

/-- A variant of an enumeration, with the path of the enumeration when it is known. -/
structure Tag where
  variant : String
  path : Option String
deriving DecidableEq, Repr

/-- A value. A map keeps its entries in order, repeated keys included. -/
inductive Value where
  | null
  | bool (b : Bool)
  | int (n : Int64)
  | uint (n : UInt64)
  | float (x : Binary64)
  | text (s : String)
  | tagged (tag : Tag)
  | list (items : List Value)
  | map (entries : List (Value × Value))
deriving Repr, Inhabited

/-- The shape of a value, as messages name it. -/
inductive ValueKind where
  | null | bool | int | uint | float | text | tagged | list | map
deriving DecidableEq, Repr

/-- The name of a kind. -/
def ValueKind.name : ValueKind → String
  | .null => "Null"
  | .bool => "Bool"
  | .int => "Int"
  | .uint => "Uint"
  | .float => "Float"
  | .text => "Text"
  | .tagged => "Enum"
  | .list => "List"
  | .map => "Map"

namespace Value

def kind : Value → ValueKind
  | .null => .null
  | .bool _ => .bool
  | .int _ => .int
  | .uint _ => .uint
  | .float _ => .float
  | .text _ => .text
  | .tagged _ => .tagged
  | .list _ => .list
  | .map _ => .map

def isNull (v : Value) : Bool := v.kind = .null

@[simp]
theorem isNull_iff {v : Value} : v.isNull = true ↔ v = .null := by
  cases v <;> simp [isNull, kind]

@[simp]
theorem isNull_eq_false_iff {v : Value} : v.isNull = false ↔ v ≠ .null := by
  rw [← Bool.not_eq_true, isNull_iff]

/-- An integer, signed or not, or a float. -/
def isNumeric (v : Value) : Bool := v.kind = .int || v.kind = .uint || v.kind = .float

def isText (v : Value) : Bool := v.kind = .text

/-- A list; a map is no collection of values. -/
def isCollection (v : Value) : Bool := v.kind = .list

/-! ## Equality -/

mutual

/-- Equality by structure, with floats compared as numbers. So a value that holds a NaN does not
equal itself, and an integer equals no unsigned one. -/
def same : Value → Value → Bool
  | .null, .null => true
  | .bool a, .bool b => a == b
  | .int a, .int b => a == b
  | .uint a, .uint b => a == b
  | .float a, .float b => a.same b
  | .text a, .text b => a == b
  | .tagged a, .tagged b => a == b
  | .list a, .list b => sameItems a b
  | .map a, .map b => sameEntries a b
  | _, _ => false

/-- Lists are equal item by item. -/
def sameItems : List Value → List Value → Bool
  | [], [] => true
  | a :: as, b :: bs => a.same b && sameItems as bs
  | _, _ => false

/-- Maps are equal entry by entry, in order. -/
def sameEntries : List (Value × Value) → List (Value × Value) → Bool
  | [], [] => true
  | (k, a) :: as, (l, b) :: bs => k.same l && a.same b && sameEntries as bs
  | _, _ => false

end

instance : BEq Value := ⟨same⟩

/-! ## Numbers -/

/-- The value as a float when nothing is lost: a float, or an integer of magnitude at most
`2 ^ 53`. -/
def toFloat? : Value → Option Binary64
  | .int n => if n.toInt.natAbs ≤ Nat.pow 2 53 then some (.ofInt n.toInt) else none
  | .uint n => if n.toNat ≤ Nat.pow 2 53 then some (.ofNat false n.toNat) else none
  | .float x => some x
  | _ => none

end Value

end Criteria
