import Criteria.Dictionary
import Criteria.Operator

/-!
# Values of data

How the data of a filter become values: whole numbers by their sign, floats widened, absence as
null, sequences as lists, and dictionaries as maps in the order of their keys.
-/

namespace Criteria

/-- Data that has a value. -/
class ToValue (α : Type) where
  toValue : α → Value

export ToValue (toValue)

instance : ToValue Value := ⟨id⟩
instance : ToValue Bool := ⟨.bool⟩
instance : ToValue Int64 := ⟨.int⟩
instance : ToValue Int32 := ⟨fun n => .int n.toInt64⟩
instance : ToValue Int16 := ⟨fun n => .int n.toInt64⟩
instance : ToValue Int8 := ⟨fun n => .int n.toInt64⟩
instance : ToValue UInt64 := ⟨.uint⟩
instance : ToValue UInt32 := ⟨fun n => .uint n.toUInt64⟩
instance : ToValue UInt16 := ⟨fun n => .uint n.toUInt64⟩
instance : ToValue UInt8 := ⟨fun n => .uint n.toUInt64⟩
instance : ToValue Binary64 := ⟨.float⟩
instance : ToValue String := ⟨.text⟩
instance : ToValue Tag := ⟨.tagged⟩
instance : ToValue Operator := ⟨fun op => .tagged op.toTag⟩

instance {α : Type} [ToValue α] : ToValue (Option α) := ⟨fun x => x.elim .null toValue⟩
instance {α : Type} [ToValue α] : ToValue (List α) := ⟨fun xs => .list (xs.map toValue)⟩

instance {α : Type} [ToValue α] : ToValue (Dictionary α) :=
  ⟨fun d => .map (d.entries.map fun entry => (.text entry.1, toValue entry.2))⟩

end Criteria
