import Criteria.Error
import Criteria.Page

/-!
# Events

What a compilation, or a query around one, tells of itself while it runs.
-/

namespace Criteria

/-- Why a criterion adds no predicate. -/
inductive SkipReason where
  | ignored
  | unset
deriving DecidableEq, Repr

/-- What a query asks for: a page of rows, or their number. -/
inductive QueryKind where
  | find
  | count
deriving DecidableEq, Repr

/-- A thing that happened. Filters are known by their type at the start and the end of a
compilation, and by the name of their model where the model is looked up. -/
inductive Event where
  | compileStart (filter entity : String)
  | compileFinish (filter entity : String) (predicates joins : Nat)
  | compileFailed (filter entity : String) (error : QueryError)
  | layoutFound (model : String)
  | layoutMade (model : String)
  | fieldSkipped (field : String) (reason : SkipReason)
  | joined (move : JoinMove)
  | predicateBuilt (field : String) (operator : Operator) (column : String)
  | queryStart (kind : QueryKind) (entity : String) (page : Option PageRequest)
  | queryFinish (kind : QueryKind) (entity : String) (rows : UInt64)
deriving DecidableEq

end Criteria
