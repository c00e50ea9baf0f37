import Criteria.Compilation
import Criteria.Failure
import Criteria.Wire.Writer

/-!
# Reading wire forms

Sort keys, directions, operators and failures are read back from the forms in which they are
written, and from the two other forms that records and names may take.
-/

namespace Criteria

def Direction.ofWire? (wire : Wire) : Option Direction := do
  let name ← wire.name?
  [ascending, descending].find? (·.wireName = name)

def Operator.ofWire? (wire : Wire) : Option Operator := wire.name?.bind ofName?

def FailureKind.ofWire? (wire : Wire) : Option FailureKind := wire.name?.bind ofName?

/-- A sort key: the list of its path and its direction. -/
def SortKey.ofWire? : Wire → Option SortKey
  | .list [path, direction] => do
    return ⟨← path.text?, ← Direction.ofWire? direction⟩
  | _ => none

/-- Sort keys: a record with their list as its only field. -/
def SortKey.listOfWire? (wire : Wire) : Option (List SortKey) :=
  match wire.record? ["fields"] with
  | some [.list keys] => keys.mapM ofWire?
  | _ => none

/-- A failure: a record of its kind and its message. -/
def Failure.ofWire? (wire : Wire) : Option Failure :=
  match wire.record? ["kind", "message"] with
  | some [kind, message] => do return ⟨← FailureKind.ofWire? kind, ← message.text?⟩
  | _ => none

/-! ## What is written is read back -/

@[simp]
theorem Direction.ofWire?_toWire (direction : Direction) :
    ofWire? direction.toWire = some direction := by
  cases direction <;> decide

@[simp]
theorem SortKey.ofWire?_toWire (key : SortKey) : ofWire? key.toWire = some key := by
  simp [ofWire?, toWire, Wire.text?]

theorem SortKey.listOfWire?_listToWire (keys : List SortKey) :
    listOfWire? (listToWire keys) = some keys := by
  have read : (keys.map toWire).mapM ofWire? = some keys := by
    induction keys with
    | nil => rfl
    | cons key rest ih => simp [List.mapM_cons, ih]
  simpa [listOfWire?, listToWire, Wire.record?] using read

theorem Failure.ofWire?_toWire (failure : Failure) : ofWire? failure.toWire = some failure := by
  obtain ⟨kind, message⟩ := failure
  cases kind <;> rfl

end Criteria
