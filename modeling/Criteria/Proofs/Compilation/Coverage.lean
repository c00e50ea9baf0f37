import Criteria.Proofs.Compilation.Typing

/-!
# Specifications join what their requests pass

Whatever routes a request has and however they meet, each association on them is joined, none is
joined twice, and nothing else is joined. A column knows its join by the last association of its
route. So the order in which paths are asked for moves the joins, but makes no others.
-/

namespace Criteria

namespace JoinPlan

/-- The column is where its route leads: on the root if the route has no associations, and else on
the join of the last one, below the path of that join. -/
structure Places (plan : JoinPlan) (route : Route) (column : Column) : Prop where
  name_eq : column.name = route.column
  root_iff : column.source = .root ↔ route.hops = []
  path_eq : route.hops = [] → column.path = column.name
  exists_join : ∀ last, route.hops.getLast? = some last →
    ∃ id join, column.source = .join id ∧ plan.get? id = some join ∧ join.key = last.key ∧
      column.path = join.path ++ "." ++ column.name

variable {plan : JoinPlan} {trails : List Trail} {routes : List Route} {route : Route}
  {column : Column}

/-- The column that a route has is where the route leads. -/
theorem Carries.places (carries : plan.Carries route column) : plan.Places route column := by
  have ends := carries.ends
  rw [Route.trail, List.getLast?_map] at ends
  constructor
  case name_eq => exact carries.name_eq
  case root_iff =>
    constructor
    · intro on_root
      rw [on_root] at ends
      exact List.getLast?_eq_none_iff.mp (Option.map_eq_none_iff.mp ends.eq_none)
    · intro nil
      rw [nil] at ends
      exact ends.eq_root
  case path_eq =>
    intro nil
    rw [carries.name_eq]
    exact carries.path_eq_of_root (by rw [Route.trail, nil]; rfl)
  case exists_join =>
    intro last is_last
    rw [is_last, Option.map_some] at ends
    obtain ⟨id, join, at_join, found, same⟩ := ends.exists_get?
    refine ⟨id, join, at_join, found, same, ?_⟩
    rw [carries.path_eq, at_join, pathOf, found, carries.name_eq]
    rfl

/-- The joins that routes make are those of their associations. -/
theorem Traced.mem_keys_iff (traced : plan.Traced (Trail.ofRoutes routes)) {key : JoinKey} :
    key ∈ plan.keys ↔ ∃ route ∈ routes, ∃ hop ∈ route.hops, hop.key = key := by
  rw [traced.keys_eq, Trail.mem_ends_ofRoutes_iff]
  simp only [Route.trail, List.mem_map]

end JoinPlan

/-- The joins of the specification are the associations on the routes of its request, each joined
once, in the order in which the routes first come to them; and each column is where its route
leads. -/
structure Specification.Covers (spec : Specification) (request : Request) (routes : List Route) :
    Prop where
  keys_nodup : (spec.joins.map Join.key).Nodup
  mem_keys_iff : ∀ key,
    key ∈ spec.joins.map Join.key ↔ ∃ route ∈ routes, ∃ hop ∈ route.hops, hop.key = key
  keys_eq : spec.joins.map Join.key = (routes.flatMap (·.hops.map Hop.key)).eraseDups
  columns : List.Forall₂ spec.plan.Places routes (spec.columns request)

namespace Compiler

variable {compiler : Compiler} {cache cache' : LayoutCache} {request request' : Request}

namespace Parts

variable (parts : compiler.Parts cache request) (parts' : compiler.Parts cache' request')

theorem covers :
    (request.specification parts.demands parts.ways).Covers request parts.routes := by
  constructor
  case keys_nodup =>
    rw [parts.joins_specification]
    exact parts.traced.wellFormed.keys_nodup
  case mem_keys_iff =>
    intro key
    rw [parts.joins_specification]
    exact parts.traced.mem_keys_iff
  case keys_eq =>
    rw [parts.joins_specification]
    exact parts.traced.keys_eq.trans (Trail.ends_ofRoutes parts.routes)
  case columns =>
    rw [parts.plan_specification]
    exact parts.forall₂_columns.imp fun _ _ carries => carries.places

theorem mem_routes_iff {route : Route} : route ∈ parts.routes ↔
    ∃ path ∈ compiler.paths parts.layout request,
      compiler.schema.resolve request.entity path = .ok route := by
  constructor
  · intro mem
    exact exists_mem_right_of_forall₂ parts.forall₂_routes mem
  · rintro ⟨path, asked, resolved⟩
    obtain ⟨own, mem, resolved'⟩ := exists_mem_left_of_forall₂ parts.forall₂_routes asked
    obtain rfl := Except.ok.inj (resolved.symm.trans resolved')
    exact mem

/-- Requests that ask for the same paths of one entity pass the same associations. -/
theorem keys_perm (entity : request'.entity = request.entity)
    (same : ∀ path, path ∈ compiler.paths parts'.layout request' ↔
      path ∈ compiler.paths parts.layout request) :
    ((request'.specification parts'.demands parts'.ways).joins.map Join.key).Perm
      ((request.specification parts.demands parts.ways).joins.map Join.key) := by
  have routes_same : ∀ route, route ∈ parts'.routes ↔ route ∈ parts.routes := by
    intro route
    rw [parts'.mem_routes_iff, parts.mem_routes_iff, entity]
    simp only [same]
  refine (List.perm_ext_iff_of_nodup parts'.covers.keys_nodup parts.covers.keys_nodup).mpr ?_
  intro key
  rw [parts'.covers.mem_keys_iff, parts.covers.mem_keys_iff]
  simp only [routes_same]

end Parts

/-- A specification covers the routes of its request, and another request that asks for the same
paths, in whatever order and however often, has the same associations joined. -/
theorem covers_of_compile {spec : Specification}
    (h : (compiler.compile cache request).2.outcome = .ok spec) :
    ∃ layout routes, compiler.layout cache request.type = .ok layout ∧
      compiler.routes layout request = .ok routes ∧ spec.Covers request routes ∧
      ∀ cache' request' layout' spec',
        compiler.layout cache' request'.type = .ok layout' →
        (compiler.compile cache' request').2.outcome = .ok spec' →
        request'.entity = request.entity →
        (∀ path, path ∈ compiler.paths layout' request' ↔ path ∈ compiler.paths layout request) →
        (spec'.joins.map Join.key).Perm (spec.joins.map Join.key) := by
  obtain ⟨parts, rfl⟩ := compile_eq_ok_iff.mp h
  refine ⟨parts.layout, parts.routes, parts.layout_eq, parts.routes_eq, parts.covers, ?_⟩
  intro cache' request' layout' spec' found compiled entity same
  obtain ⟨parts', rfl⟩ := compile_eq_ok_iff.mp compiled
  obtain rfl := Except.ok.inj (found.symm.trans parts'.layout_eq)
  exact parts.keys_perm parts' entity same

end Compiler

namespace Staff

/-- The paths of `roundabout` with its two criteria the other way round. -/
def turnabout : Request :=
  search "Manager" ["boss.department.name", "department.head.boss.name"]
    ["department.head.department.name"]

theorem covers_roundabout : ∃ spec spec' routes,
    (compiler.compile ∅ roundabout).2.outcome = .ok spec ∧
      (compiler.compile ∅ turnabout).2.outcome = .ok spec' ∧
      spec.Covers roundabout routes ∧
      spec.joins.map Join.key =
        [("Person", "department"), ("Department", "head"), ("Person", "boss")] ∧
      spec'.joins.map Join.key =
        [("Person", "boss"), ("Person", "department"), ("Department", "head")] ∧
      (spec'.joins.map Join.key).Perm (spec.joins.map Join.key) := by
  have compiled : (compiler.compile ∅ roundabout).2.outcome = .ok _ := rfl
  have compiled' : (compiler.compile ∅ turnabout).2.outcome = .ok _ := rfl
  have found' : compiler.layout ∅ turnabout.type =
      .ok ⟨"Search", turnabout.type.model.criteria, none⟩ := rfl
  obtain ⟨layout, routes, found, -, covers, perm⟩ := Compiler.covers_of_compile compiled
  obtain rfl : layout = ⟨"Search", roundabout.type.model.criteria, none⟩ :=
    Except.ok.inj (found.symm.trans rfl)
  refine ⟨_, _, routes, compiled, compiled', covers, rfl, rfl, ?_⟩
  -- the paths of the criteria change places
  exact perm ∅ turnabout _ _ found' compiled' rfl fun path => (List.Perm.swap _ _ _).mem_iff

end Staff

end Criteria
