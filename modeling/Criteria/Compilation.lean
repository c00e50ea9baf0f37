import Criteria.Config.Basic
import Criteria.Event.Logged
import Criteria.Filter.Cache
import Criteria.Filter.Criterion
import Criteria.Specification

/-!
# Compilation of a filter value into a specification

The criteria are taken in order. Each that is set resolves its path, passes the associations on it,
and compares the column reached with its value; then the sort keys resolve theirs, on the same joins.
Everything that happens is told in order, and the first error ends it.
-/

namespace Criteria

/-- A column to sort by, as a dotted path. -/
structure SortKey where
  path : String
  direction : Direction
deriving DecidableEq, Repr

/-- A sort key as text. -/
def SortKey.text (key : SortKey) : String := key.path ++ " " ++ key.direction.keyword

/-- What is compiled: a filter value with its type, the root entity, predicates to add to those of
the filter, and sort keys. -/
structure Request where
  type : FilterType
  values : FilterValue
  entity : String
  extra : List Predicate
  sort : List SortKey

/-- What a compilation goes by. -/
structure Compiler where
  schema : Schema
  config : Config

namespace Compiler

/-- Passes the associations of a route and tells each. -/
def pass (plan : JoinPlan) (hops : List Hop) : Logged QueryError (JoinPlan × Source) := do
  let (plan, source, moves) := plan.pass hops
  Logged.tell (moves.map .joined)
  return (plan, source)

/-- Resolves a path from the root entity. -/
def route (compiler : Compiler) (root : String) (path : List String) : Logged QueryError Route :=
  .lift .path (compiler.schema.resolve root path)

/-! ## Criteria -/

/-- Why a criterion adds no predicate, if it adds none. -/
def skip? (criterion : Criterion) : Option SkipReason :=
  if criterion.ignored then some .ignored
  else if criterion.value.isNull then some .unset
  else none

/-- The predicate of a criterion that is set. -/
def predicate (compiler : Compiler) (root : String) (overrides : Overrides) (plan : JoinPlan)
    (criterion : Criterion) : Logged QueryError (JoinPlan × Predicate) := do
  let route ← compiler.route root (criterion.segments compiler.config.separator)
  let (plan, source) ← pass plan route.hops
  let operator := criterion.resolvedOperator overrides
  let comparison ← .lift .operator
    (Comparison.ofField criterion.name operator criterion.value route.type compiler.config.escape)
  let column := Column.ofPlan plan source route.column
  Logged.tell [.predicateBuilt criterion.name operator column.path]
  return (plan, .compare column comparison)

/-- The predicates of all criteria, in order. -/
def predicates (compiler : Compiler) (root : String) (overrides : Overrides) (plan : JoinPlan) :
    List Criterion → Logged QueryError (JoinPlan × List Predicate)
  | [] => return (plan, [])
  | criterion :: rest =>
    match skip? criterion with
    | some reason => do
      Logged.tell [.fieldSkipped criterion.name reason]
      compiler.predicates root overrides plan rest
    | none => do
      let (plan, predicate) ← compiler.predicate root overrides plan criterion
      let (plan, others) ← compiler.predicates root overrides plan rest
      return (plan, predicate :: others)

/-! ## Sort keys -/

/-- The column that a sort key names. -/
def term (compiler : Compiler) (root : String) (plan : JoinPlan) (key : SortKey) :
    Logged QueryError (JoinPlan × OrderTerm) := do
  let route ← compiler.route root (Text.split '.' key.path)
  let (plan, source) ← pass plan route.hops
  return (plan, ⟨.ofPlan plan source route.column, key.direction⟩)

/-- The columns of all sort keys, in order. -/
def order (compiler : Compiler) (root : String) (plan : JoinPlan) :
    List SortKey → Logged QueryError (JoinPlan × List OrderTerm)
  | [] => return (plan, [])
  | key :: rest => do
    let (plan, term) ← compiler.term root plan key
    let (plan, others) ← compiler.order root plan rest
    return (plan, term :: others)

/-! ## Requests -/

/-- Refuses a root entity that the schema does not know. -/
def requireRoot (compiler : Compiler) (root : String) : Except PathError Unit :=
  if (compiler.schema.entity? root).isSome then .ok () else .error (.unknownEntity root)

/-- The specification of a request, given the layout of its filter. -/
def assemble (compiler : Compiler) (request : Request) (layout : FilterLayout) :
    Logged QueryError Specification := do
  let overrides ← .lift .filter (layout.overrides request.values)
  Logged.lift .path (compiler.requireRoot request.entity)
  let (plan, predicates) ←
    compiler.predicates request.entity overrides ∅ (layout.read request.values)
  let (plan, order) ← compiler.order request.entity plan request.sort
  return ⟨request.entity, plan.joins, predicates ++ request.extra, order⟩

/-- The specification of a request, given what the lookup of its layout found. -/
def assembleFound (compiler : Compiler) (request : Request)
    (found : Except FilterError LayoutLookup) : Logged QueryError Specification := do
  let found ← .lift .filter found
  Logged.tell
    [if found.hit then .layoutFound found.layout.name else .layoutMade found.layout.name]
  compiler.assemble request found.layout

/-- How a compilation ended, as an event. -/
def closing (request : Request) : Except QueryError Specification → Event
  | .ok spec =>
    .compileFinish request.type.name request.entity spec.predicates.length spec.joins.length
  | .error error => .compileFailed request.type.name request.entity error

/-- A computation between the events of its start and its end. -/
def framed (request : Request) (body : Logged QueryError Specification) :
    Logged QueryError Specification where
  events := .compileStart request.type.name request.entity :: body.events ++
    [closing request body.outcome]
  outcome := body.outcome

/-- Compiles a request. The cache is as the lookup of the layout leaves it, whatever comes after. -/
def compile (compiler : Compiler) (cache : LayoutCache) (request : Request) :
    LayoutCache × Logged QueryError Specification :=
  let (cache, found) := cache.lookup compiler.config.rememberLayouts request.type
  (cache, framed request (compiler.assembleFound request found))

end Compiler

end Criteria
