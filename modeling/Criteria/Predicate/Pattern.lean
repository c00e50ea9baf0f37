/-!
# Patterns of substring search

A pattern matches with `%` for any characters and `_` for one; the escape character takes the
meaning from the character that follows it.
-/

namespace Criteria.Pattern

/-- A text in which nothing has a meaning of its own: the escape character stands before each
wildcard and each escape character. -/
def literally (escape : Char) : List Char → List Char
  | [] => []
  | c :: cs =>
    if c = '%' ∨ c = '_' ∨ c = escape then escape :: c :: literally escape cs
    else c :: literally escape cs

/-- The pattern of all texts that contain the given one. -/
def containing (text : String) (escape : Char) : String :=
  String.ofList ('%' :: literally escape text.toList ++ ['%'])

end Criteria.Pattern
