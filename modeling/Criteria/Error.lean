import Criteria.Filter.Layout
import Criteria.Path
import Criteria.Predicate.Comparison

/-!
# Why a query cannot be made

A compilation stops at the first thing that is wrong, which lies with the filter, with a path, with
an operator or with the size of a page.
-/

namespace Criteria

/-- What stops a compilation. -/
inductive QueryError where
  | filter (error : FilterError)
  | path (error : PathError)
  | operator (error : OperatorError)
  | emptyPage
deriving DecidableEq, Repr

namespace QueryError

def message : QueryError → String
  | filter error => error.message
  | path error => error.message
  | operator error => error.message
  | emptyPage => "page size must be at least 1"

def isPath : QueryError → Bool
  | path _ => true
  | _ => false

def isOperator : QueryError → Bool
  | operator _ => true
  | _ => false

end QueryError

end Criteria
