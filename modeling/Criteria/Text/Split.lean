/-!
# Splitting text at a character

The pieces between the occurrences of a separator, empty ones included: there is always one piece
more than separators.
-/

namespace Criteria.Text

/-- The pieces of a text between the occurrences of a character. -/
def split (separator : Char) (text : String) : List String :=
  (text.toList.splitOn separator).map String.ofList

theorem split_ne_nil (separator : Char) (text : String) : split separator text ≠ [] := by
  simp [split, List.splitOn_ne_nil]

/-- Pieces without the separator, put together with it, are split into themselves. -/
theorem split_intercalate {separator : Char} {pieces : List String} (ne : pieces ≠ [])
    (free : ∀ piece ∈ pieces, separator ∉ piece.toList) :
    split separator ((String.singleton separator).intercalate pieces) = pieces := by
  have apart : ∀ chars ∈ pieces.map String.toList, separator ∉ chars := by
    intro chars listed
    obtain ⟨piece, mem, rfl⟩ := List.mem_map.mp listed
    exact free piece mem
  rw [split, String.toList_intercalate, String.toList_singleton,
    List.splitOn_intercalate separator apart (mt List.map_eq_nil_iff.mp ne), List.map_map]
  simp [Function.comp_def]

end Criteria.Text
