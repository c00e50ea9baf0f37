import Criteria.Predicate.Basic

/-!
# Specifications

A specification is what a query engine is handed: the root entity, the joins, the predicates, all of
which must hold, and the columns to sort by.
-/

namespace Criteria

/-- The direction of a sort key; ascending unless said otherwise. -/
inductive Direction where
  | ascending
  | descending
deriving DecidableEq, Repr, Inhabited

/-- The keyword of a direction. -/
def Direction.keyword : Direction → String
  | ascending => "ASC"
  | descending => "DESC"

/-- A column to sort by. -/
structure OrderTerm where
  column : Column
  direction : Direction
deriving DecidableEq, Repr

def OrderTerm.text (term : OrderTerm) : String :=
  term.column.path ++ " " ++ term.direction.keyword

/-- A query. The predicates of the filter come before those added to it. -/
structure Specification where
  entity : String
  joins : List Join
  predicates : List Predicate
  order : List OrderTerm

/-- The kind of every join. -/
def Join.keyword : String := "INNER"

/-- A join as a line of an explanation. -/
def Join.line (join : Join) : String :=
  "\n  " ++ keyword ++ " JOIN " ++ join.owner ++ "." ++ join.association ++ " AS " ++ join.path ++
    " (" ++ join.target ++ ")"

namespace Specification

/-- Whether every row of the root entity is asked for. -/
def isUnfiltered (spec : Specification) : Bool := spec.predicates.isEmpty

/-- Texts one after the other with something between them and something in front, or nothing when
there are no texts. -/
def clause (opening between : String) (texts : List String) : String :=
  if texts.isEmpty then "" else opening ++ between.intercalate texts

/-- The query as text, a clause a line. -/
def explain (spec : Specification) : String :=
  "FROM " ++ spec.entity ++ String.join (spec.joins.map (·.line)) ++
    clause "\nWHERE " "\n  AND " (spec.predicates.map (·.text)) ++
    clause "\nORDER BY " ", " (spec.order.map (·.text))

end Specification

end Criteria
