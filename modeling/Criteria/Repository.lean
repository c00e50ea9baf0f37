import Criteria.Compilation

/-!
# Queries on one entity

A repository compiles a filter value and hands the specification to an engine, which finds a page of
rows or counts them. The engine is handed nothing when the compilation fails.
-/

namespace Criteria

/-- What executes specifications. It has a state of its own and may fail. -/
structure Engine (σ ρ ε : Type) where
  find : Specification → PageRequest → σ → σ × Except ε (Page ρ)
  count : Specification → σ → σ × Except ε UInt64

/-- Why a query has no answer: it cannot be made, or the engine failed. -/
inductive QueryFailure (ε : Type) where
  | query (error : QueryError)
  | engine (error : ε)
deriving DecidableEq, Repr

/-- A compiler and an engine for the rows of one entity. -/
structure Repository (σ ρ ε : Type) where
  compiler : Compiler
  engine : Engine σ ρ ε
  entity : String

/-- What a query leaves behind, the cache of layouts and the state of the engine, and its course. -/
structure QueryRun (σ ε α : Type) where
  cache : LayoutCache
  state : σ
  course : Logged (QueryFailure ε) α

namespace Repository

variable {σ ρ ε α : Type}

/-- The course of a query: its start, the compilation, and, when the engine answers, its finish
with the number of rows. -/
def course (kind : QueryKind) (entity : String) (page : Option PageRequest) (rows : α → UInt64)
    (compiled : Logged QueryError Specification) (answer : Specification → Except ε α) :
    Logged (QueryFailure ε) α := do
  Logged.tell [.queryStart kind entity page]
  let spec ← ⟨compiled.events, compiled.outcome.mapError .query⟩
  let result ← .lift .engine (answer spec)
  Logged.tell [.queryFinish kind entity (rows result)]
  return result

/-- Compiles a request and has the engine answer it. -/
def run (repository : Repository σ ρ ε) (cache : LayoutCache) (state : σ) (request : Request)
    (kind : QueryKind) (page : Option PageRequest) (rows : α → UInt64)
    (execute : Specification → σ → σ × Except ε α) : QueryRun σ ε α :=
  let (cache, compiled) := repository.compiler.compile cache request
  { cache
    state :=
      match compiled.outcome with
      | .ok spec => (execute spec state).1
      | .error _ => state
    course :=
      course kind repository.entity page rows compiled fun spec => (execute spec state).2 }

/-- Finds a page of rows, with sort keys and with predicates beside those of the filter. The size of
the page is cut to the configured limit. -/
def findWith (repository : Repository σ ρ ε) (cache : LayoutCache) (state : σ)
    (type : FilterType) (values : FilterValue) (page : PageRequest) (sort : List SortKey)
    (extra : List Predicate) : QueryRun σ ε (Page ρ) :=
  let page := page.clamp repository.compiler.config.maxPageSize
  repository.run cache state { type, values, entity := repository.entity, extra, sort }
    .find (some page) (fun answer => .ofNat answer.items.length)
    fun spec => repository.engine.find spec page

/-- Finds a page of rows in the order of sort keys. -/
def findSorted (repository : Repository σ ρ ε) (cache : LayoutCache) (state : σ)
    (type : FilterType) (values : FilterValue) (page : PageRequest) (sort : List SortKey) :
    QueryRun σ ε (Page ρ) :=
  repository.findWith cache state type values page sort []

/-- Finds a page of rows. -/
def find (repository : Repository σ ρ ε) (cache : LayoutCache) (state : σ)
    (type : FilterType) (values : FilterValue) (page : PageRequest) : QueryRun σ ε (Page ρ) :=
  repository.findWith cache state type values page [] []

/-- The size of a page when none is picked. -/
def pageSize (config : Config) (size : UInt32) : UInt32 :=
  if size = 0 then config.defaultPageSize else size

/-- Finds a page of rows by its number and size; a size of zero stands for the configured one. A
page that still has no room ends the query before anything is told or done. -/
def findPage (repository : Repository σ ρ ε) (cache : LayoutCache) (state : σ)
    (type : FilterType) (values : FilterValue) (number size : UInt32) :
    QueryRun σ ε (Page ρ) :=
  match PageRequest.of? number (pageSize repository.compiler.config size) with
  | some page => repository.find cache state type values page
  | none => ⟨cache, state, ⟨[], .error (.query .emptyPage)⟩⟩

/-- Counts the rows. -/
def count (repository : Repository σ ρ ε) (cache : LayoutCache) (state : σ)
    (type : FilterType) (values : FilterValue) : QueryRun σ ε UInt64 :=
  repository.run cache state
    { type, values, entity := repository.entity, extra := [], sort := [] }
    .count none id repository.engine.count

end Repository

end Criteria
