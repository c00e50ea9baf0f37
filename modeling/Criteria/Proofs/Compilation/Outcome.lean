import Criteria.Compilation
import Criteria.Proofs.Join.Column
import Criteria.Proofs.Outcome

/-!
# How a compilation ends

Each part of a request can be looked at alone: a set criterion asks for a route and a comparison,
its `demand`, and a sort key for a route. A compilation ends with a specification when all its
parts end well, and the specification is then that of the demands and the routes,
`Request.specification`: the columns of all routes hang on one plan, the criteria's first.
-/

namespace Criteria

/-! ## Criteria that are set -/

/-- Whether a criterion is compared: it is not ignored and has a value, one that is not null. -/
def Criterion.isSet (criterion : Criterion) : Bool := !criterion.ignored && !criterion.value.isNull

theorem Criterion.isSet_iff {criterion : Criterion} :
    criterion.isSet = true ↔ criterion.ignored = false ∧ criterion.value ≠ .null := by
  simp [isSet]

/-- The criteria of a filter value that are compared (`Criterion.isSet_iff`), in the order of the
layout. -/
def FilterLayout.setCriteria (layout : FilterLayout) (values : FilterValue) : List Criterion :=
  (layout.read values).filter (·.isSet)

theorem Compiler.skip?_eq_none_iff {criterion : Criterion} :
    skip? criterion = none ↔ criterion.isSet = true := by
  unfold skip?
  rw [Criterion.isSet_iff]
  cases criterion.ignored <;> simp

/-! ## The specification of parts -/

/-- The specification of a request, given the routes and comparisons of its set criteria and the
routes of its sort keys. -/
def Request.specification (request : Request) (demands : List (Route × Comparison))
    (ways : List Route) : Specification :=
  let filtered := (∅ : JoinPlan).hangAll (demands.map (·.1))
  let sorted := filtered.1.hangAll ways
  { entity := request.entity
    joins := sorted.1.joins
    predicates := List.zipWith .compare filtered.2 (demands.map (·.2)) ++ request.extra
    order := List.zipWith (fun column key => ⟨column, key.direction⟩) sorted.2 request.sort }

namespace Compiler

variable (compiler : Compiler) (root : String) (overrides : Overrides)

/-- What a criterion asks for by itself: the route of its path and the comparison of its
operator. -/
def demand (criterion : Criterion) : Except QueryError (Route × Comparison) := do
  let route ← (compiler.schema.resolve root
    (criterion.segments compiler.config.separator)).mapError .path
  let comparison ← (Comparison.ofField criterion.name (criterion.resolvedOperator overrides)
    criterion.value route.type compiler.config.escape).mapError .operator
  return (route, comparison)

/-- The route of a sort key by itself. -/
def keyRoute (key : SortKey) : Except QueryError Route :=
  (compiler.schema.resolve root (Text.split '.' key.path)).mapError .path

/-- The layout that a filter type is compiled by. -/
def layout (cache : LayoutCache) (type : FilterType) : Except FilterError FilterLayout :=
  (cache.lookup compiler.config.rememberLayouts type).2.map (·.layout)

/-! ## Outcomes of the stages -/

theorem outcome_pass (plan : JoinPlan) (hops : List Hop) :
    (pass plan hops).outcome = .ok ((plan.pass hops).1, (plan.pass hops).2.1) := rfl

theorem outcome_predicate (plan : JoinPlan) (criterion : Criterion) :
    (compiler.predicate root overrides plan criterion).outcome =
      (compiler.demand root overrides criterion).map fun demand =>
        ((plan.hang demand.1).1, .compare (plan.hang demand.1).2 demand.2) := by
  simp only [predicate, demand, route, Logged.outcome_bind, Logged.outcome_lift, outcome_pass]
  cases compiler.schema.resolve root (criterion.segments compiler.config.separator) with
  | error e => rfl
  | ok route =>
    simp only [mapError_ok, ok_bind]
    cases Comparison.ofField criterion.name (criterion.resolvedOperator overrides) criterion.value
      route.type compiler.config.escape with
    | error e => rfl
    | ok comparison => rfl

theorem outcome_predicates (plan : JoinPlan) (criteria : List Criterion) :
    (compiler.predicates root overrides plan criteria).outcome =
      ((criteria.filter (·.isSet)).mapM (compiler.demand root overrides)).map fun demands =>
        ((plan.hangAll (demands.map (·.1))).1,
          List.zipWith .compare (plan.hangAll (demands.map (·.1))).2 (demands.map (·.2))) := by
  induction criteria generalizing plan with
  | nil => rfl
  | cons criterion rest ih =>
    rw [predicates]
    cases skip : skip? criterion with
    | some reason =>
      have unset : ¬ criterion.isSet = true := by
        rw [← skip?_eq_none_iff, skip]
        exact Option.some_ne_none _
      rw [List.filter_cons_of_neg unset, ← ih plan]
      rfl
    | none =>
      rw [List.filter_cons_of_pos (skip?_eq_none_iff.mp skip), List.mapM_cons]
      simp only [Logged.outcome_bind, outcome_predicate, ih]
      cases compiler.demand root overrides criterion with
      | error e => rfl
      | ok demand =>
        simp only [map_ok, ok_bind]
        cases (rest.filter (·.isSet)).mapM (compiler.demand root overrides) with
        | error e => rfl
        | ok demands => rfl

theorem outcome_term (plan : JoinPlan) (key : SortKey) :
    (compiler.term root plan key).outcome =
      (compiler.keyRoute root key).map fun route =>
        ((plan.hang route).1, ⟨(plan.hang route).2, key.direction⟩) := by
  simp only [term, keyRoute, route, Logged.outcome_bind, Logged.outcome_lift, outcome_pass]
  cases compiler.schema.resolve root (Text.split '.' key.path) with
  | error e => rfl
  | ok route => rfl

theorem outcome_order (plan : JoinPlan) (keys : List SortKey) :
    (compiler.order root plan keys).outcome =
      (keys.mapM (compiler.keyRoute root)).map fun ways =>
        ((plan.hangAll ways).1,
          List.zipWith (fun column key => ⟨column, key.direction⟩) (plan.hangAll ways).2 keys) := by
  induction keys generalizing plan with
  | nil => rfl
  | cons key rest ih =>
    rw [order, List.mapM_cons]
    simp only [Logged.outcome_bind, outcome_term, ih]
    cases compiler.keyRoute root key with
    | error e => rfl
    | ok route =>
      simp only [map_ok, ok_bind]
      cases rest.mapM (compiler.keyRoute root) with
      | error e => rfl
      | ok ways => rfl

/-- The parts of a request are looked at in order: the carrier of its filter, the root entity, the
set criteria, the sort keys. -/
theorem outcome_assemble (request : Request) (layout : FilterLayout) :
    (compiler.assemble request layout).outcome = do
      let overrides ← (layout.overrides request.values).mapError .filter
      (compiler.requireRoot request.entity).mapError .path
      let demands ← (layout.setCriteria request.values).mapM
        (compiler.demand request.entity overrides)
      let ways ← request.sort.mapM (compiler.keyRoute request.entity)
      return request.specification demands ways := by
  simp only [assemble, Logged.outcome_bind, Logged.outcome_lift, outcome_predicates, outcome_order,
    FilterLayout.setCriteria]
  cases layout.overrides request.values with
  | error e => rfl
  | ok overrides =>
    cases compiler.requireRoot request.entity with
    | error e => rfl
    | ok _ =>
      simp only [mapError_ok, ok_bind]
      cases ((layout.read request.values).filter (·.isSet)).mapM
        (compiler.demand request.entity overrides) with
      | error e => rfl
      | ok demands =>
        simp only [map_ok, ok_bind]
        cases request.sort.mapM (compiler.keyRoute request.entity) with
        | error e => rfl
        | ok ways => rfl

theorem outcome_compile (cache : LayoutCache) (request : Request) :
    (compiler.compile cache request).2.outcome =
      (compiler.layout cache request.type).mapError .filter >>= fun layout =>
        (compiler.assemble request layout).outcome := by
  simp only [compile, framed, assembleFound, layout, Logged.outcome_bind, Logged.outcome_lift,
    Logged.outcome_tell]
  cases (cache.lookup compiler.config.rememberLayouts request.type).2 with
  | error e => rfl
  | ok found => rfl

/-! ## Compilations that succeed -/

/-- The parts of a request that end well: the layout of its filter and the operators it carries, a
root entity that is known, what the set criteria ask for, and the routes of the sort keys. -/
structure Parts (cache : LayoutCache) (request : Request) where
  layout : FilterLayout
  overrides : Overrides
  demands : List (Route × Comparison)
  ways : List Route
  layout_eq : compiler.layout cache request.type = .ok layout
  overrides_eq : layout.overrides request.values = .ok overrides
  root_known : (compiler.schema.entity? request.entity).isSome
  demands_eq : (layout.setCriteria request.values).mapM
    (compiler.demand request.entity overrides) = .ok demands
  ways_eq : request.sort.mapM (compiler.keyRoute request.entity) = .ok ways

variable {compiler : Compiler} {cache : LayoutCache} {request : Request} {spec : Specification}

theorem requireRoot_eq_ok_iff {root : String} :
    compiler.requireRoot root = .ok () ↔ (compiler.schema.entity? root).isSome := by
  unfold requireRoot
  split <;> simp_all

/-- A compilation succeeds exactly when all parts of its request do. -/
theorem compile_eq_ok_iff : (compiler.compile cache request).2.outcome = .ok spec ↔
    ∃ parts : compiler.Parts cache request,
      spec = request.specification parts.demands parts.ways := by
  simp only [outcome_compile, outcome_assemble, bind_eq_ok_iff, mapError_eq_ok_iff]
  constructor
  · rintro ⟨layout, found, overrides, carried, _, known, demands, asked, ways, keyed, eq⟩
    exact ⟨⟨layout, overrides, demands, ways, found, carried, requireRoot_eq_ok_iff.mp known, asked,
      keyed⟩, (Except.ok.inj eq).symm⟩
  · rintro ⟨parts, rfl⟩
    exact ⟨parts.layout, parts.layout_eq, parts.overrides, parts.overrides_eq, (),
      requireRoot_eq_ok_iff.mpr parts.root_known, parts.demands, parts.demands_eq, parts.ways,
      parts.ways_eq, rfl⟩

end Compiler

/-! ## The columns of a request -/

/-- The predicates of a specification that come from the filter: all but those added to it. -/
def Specification.filterPredicates (spec : Specification) (request : Request) : List Predicate :=
  spec.predicates.take (spec.predicates.length - request.extra.length)

/-- The columns that a specification was asked for by path: those of the filter's predicates, then
those sorted by. -/
def Specification.columns (spec : Specification) (request : Request) : List Column :=
  (spec.filterPredicates request).map (·.column) ++ spec.order.map (·.column)

/-- The joins of a specification as a plan. -/
def Specification.plan (spec : Specification) : JoinPlan := ⟨spec.joins⟩

namespace Compiler

/-- The paths of a request: those of the set criteria, then those of the sort keys. -/
def paths (compiler : Compiler) (layout : FilterLayout) (request : Request) : List (List String) :=
  (layout.setCriteria request.values).map (·.segments compiler.config.separator) ++
    request.sort.map fun key => Text.split '.' key.path

/-- The routes of a request, each path resolved from the root entity. -/
def routes (compiler : Compiler) (layout : FilterLayout) (request : Request) :
    Except PathError (List Route) :=
  (compiler.paths layout request).mapM (compiler.schema.resolve request.entity)

/-- The term is that of a sort key on a plan: it has the key's direction, and its column is that of
the key's route. -/
structure TermOf (compiler : Compiler) (root : String) (plan : JoinPlan) (key : SortKey)
    (term : OrderTerm) : Prop where
  direction_eq : term.direction = key.direction
  carries : ∃ route, compiler.keyRoute root key = .ok route ∧ plan.Carries route term.column

/-- The routes are those of a request: of its paths, by the layout that its filter has. -/
def Routed (compiler : Compiler) (cache : LayoutCache) (request : Request) (routes : List Route) :
    Prop :=
  ∃ layout, compiler.layout cache request.type = .ok layout ∧
    compiler.routes layout request = .ok routes

namespace Parts

variable {compiler : Compiler} {cache : LayoutCache} {request : Request}
variable (parts : compiler.Parts cache request)

/-- The routes of the parts: those of the criteria, then those of the sort keys. -/
def routes : List Route := parts.demands.map (·.1) ++ parts.ways

/-- The plan on which all columns hang. -/
def plan : JoinPlan := ((∅ : JoinPlan).hangAll parts.routes).1

theorem forall₂_demands : List.Forall₂
    (fun criterion demand => compiler.demand request.entity parts.overrides criterion = .ok demand)
    (parts.layout.setCriteria request.values) parts.demands := mapM_eq_ok_iff.mp parts.demands_eq

theorem forall₂_ways : List.Forall₂
    (fun key way => compiler.schema.resolve request.entity (Text.split '.' key.path) = .ok way)
    request.sort parts.ways :=
  (mapM_eq_ok_iff.mp parts.ways_eq).imp fun _ _ h => mapError_eq_ok_iff.mp h

theorem resolve_of_demand {root : String} {overrides : Overrides} {criterion : Criterion}
    {demand : Route × Comparison} (h : compiler.demand root overrides criterion = .ok demand) :
    compiler.schema.resolve root (criterion.segments compiler.config.separator) =
      .ok demand.1 := by
  obtain ⟨route, resolved, h⟩ := bind_eq_ok_iff.mp h
  obtain ⟨comparison, -, h⟩ := bind_eq_ok_iff.mp h
  obtain rfl := Except.ok.inj h
  exact mapError_eq_ok_iff.mp resolved

theorem routes_eq : compiler.routes parts.layout request = .ok parts.routes := by
  rw [Compiler.routes, paths, mapM_eq_ok_iff, routes]
  apply List.rel_append
  · rw [List.forall₂_map_left_iff, List.forall₂_map_right_iff]
    exact parts.forall₂_demands.imp fun _ _ h => resolve_of_demand h
  · rw [List.forall₂_map_left_iff]
    exact parts.forall₂_ways

theorem routed : compiler.Routed cache request parts.routes :=
  ⟨parts.layout, parts.layout_eq, parts.routes_eq⟩

theorem forall₂_routes : List.Forall₂
    (fun path route => compiler.schema.resolve request.entity path = .ok route)
    (compiler.paths parts.layout request) parts.routes := mapM_eq_ok_iff.mp parts.routes_eq

theorem traced : parts.plan.Traced (Trail.ofRoutes parts.routes) :=
  (JoinPlan.traced_empty.hangAll parts.routes).1

/-- The plan of the criteria alone, on which the sort keys then go on. -/
def filterPlan : JoinPlan := ((∅ : JoinPlan).hangAll (parts.demands.map (·.1))).1

theorem plan_eq : parts.plan = (parts.filterPlan.hangAll parts.ways).1 := by
  rw [plan, routes, JoinPlan.hangAll_append]
  rfl

theorem plan_specification :
    (request.specification parts.demands parts.ways).plan = parts.plan := by
  rw [plan_eq]
  rfl

theorem joins_specification :
    (request.specification parts.demands parts.ways).joins = parts.plan.joins :=
  congrArg JoinPlan.joins parts.plan_specification

theorem order_specification :
    (request.specification parts.demands parts.ways).order =
      List.zipWith (fun column key => ⟨column, key.direction⟩)
        (parts.filterPlan.hangAll parts.ways).2 request.sort := rfl

theorem filterPredicates_specification :
    (request.specification parts.demands parts.ways).filterPredicates request =
      List.zipWith .compare ((∅ : JoinPlan).hangAll (parts.demands.map (·.1))).2
        (parts.demands.map (·.2)) := by
  rw [Specification.filterPredicates, Request.specification, List.length_append,
    Nat.add_sub_cancel]
  exact List.take_left

theorem map_column_filterPredicates :
    ((request.specification parts.demands parts.ways).filterPredicates request).map (·.column) =
      ((∅ : JoinPlan).hangAll (parts.demands.map (·.1))).2 := by
  rw [filterPredicates_specification]
  exact map_zipWith_left (fun _ _ => rfl) (by simp)

theorem map_column_order :
    (request.specification parts.demands parts.ways).order.map (·.column) =
      (parts.filterPlan.hangAll parts.ways).2 := by
  rw [order_specification]
  exact map_zipWith_left (fun _ _ => rfl) (by simp [parts.forall₂_ways.length_eq])

theorem columns_specification :
    (request.specification parts.demands parts.ways).columns request =
      ((∅ : JoinPlan).hangAll parts.routes).2 := by
  rw [Specification.columns, map_column_filterPredicates, map_column_order, routes,
    JoinPlan.hangAll_append]
  rfl

/-- Each route has its column. -/
theorem forall₂_columns : List.Forall₂ parts.plan.Carries parts.routes
    ((request.specification parts.demands parts.ways).columns request) := by
  rw [columns_specification]
  exact (JoinPlan.traced_empty.hangAll parts.routes).2.2

/-- Each sort key has its term. -/
theorem forall₂_order : List.Forall₂ (compiler.TermOf request.entity parts.plan) request.sort
    (request.specification parts.demands parts.ways).order := by
  obtain ⟨traced, -, -⟩ := JoinPlan.traced_empty.hangAll (parts.demands.map (·.1))
  obtain ⟨-, -, carried⟩ := traced.hangAll parts.ways
  rw [order_specification, plan_eq]
  refine (forall₂_zipWith (mapM_eq_ok_iff.mp parts.ways_eq) carried).imp ?_
  rintro key term ⟨route, column, routed, carries, rfl⟩
  exact ⟨rfl, route, routed, carries⟩

end Parts

end Compiler

end Criteria
