import Criteria.Proofs.Compilation.Typing
import Criteria.Proofs.Join.Unambiguous

/-!
# Specifications of unambiguous requests

A join remembers one way to its association. As long as the routes of a request come to each
association on one way only, nothing is lost by that: the joins are the trails themselves, and every
column hangs where its own path leads.
-/

namespace Criteria

/-- The specification keeps to the routes of its request: the joins are the distinct trails in the
order in which they are first passed, each under the trail it goes on from and with the path of its
own, and each column hangs where its route leads, with the path of the route. -/
structure Specification.Faithful (spec : Specification) (request : Request) (routes : List Route) :
    Prop where
  joins :
    let trails := (Trail.ofRoutes routes).eraseDups
    spec.joins.map (fun join => (join.id, some join.key, join.parent, join.path)) =
      trails.map fun trail =>
        (trails.idxOf trail, trail.getLast?, Trail.sourceIn trails trail.dropLast, trail.dotted)
  columns :
    let trails := (Trail.ofRoutes routes).eraseDups
    spec.columns request = routes.map fun route =>
      ⟨Trail.sourceIn trails route.trail, route.column, ".".intercalate route.path⟩

namespace Compiler

variable {compiler : Compiler} {cache : LayoutCache} {request : Request}

/-- The routes spell the paths that they were resolved from. -/
theorem Parts.map_path (parts : compiler.Parts cache request) :
    parts.routes.map Route.path = compiler.paths parts.layout request := by
  symm
  apply eq_map_of_forall₂
  refine parts.forall₂_routes.flip.imp fun route path resolved => ?_
  exact (Schema.resolve_eq_ok_iff.mp resolved).1.symm

theorem Parts.columns_eq (parts : compiler.Parts cache request)
    (clear : Trail.Unambiguous (Trail.ofRoutes parts.routes)) :
    (request.specification parts.demands parts.ways).columns request =
      parts.routes.map fun route =>
        ⟨Trail.sourceIn (Trail.ofRoutes parts.routes).eraseDups route.trail, route.column,
          ".".intercalate route.path⟩ := by
  apply eq_map_of_forall₂
  have within : ∀ route ∈ parts.routes, route ∈ parts.routes := fun _ mem => mem
  refine ((List.forall₂_and_left _ _).mpr ⟨within, parts.forall₂_columns⟩).imp ?_
  rintro route column ⟨mem, carries⟩
  exact parts.traced.column_eq clear mem carries

/-- A compiled request has routes that spell its paths, and the specification is faithful to them
when they are unambiguous. -/
theorem faithful_of_compile {spec : Specification}
    (h : (compiler.compile cache request).2.outcome = .ok spec) :
    ∃ layout routes, compiler.layout cache request.type = .ok layout ∧
      compiler.routes layout request = .ok routes ∧
      routes.map Route.path = compiler.paths layout request ∧
      (Trail.Unambiguous (Trail.ofRoutes routes) → spec.Faithful request routes) := by
  obtain ⟨parts, rfl⟩ := compile_eq_ok_iff.mp h
  refine ⟨parts.layout, parts.routes, parts.layout_eq, parts.routes_eq, parts.map_path, ?_⟩
  intro clear
  constructor
  case joins =>
    rw [parts.joins_specification]
    exact parts.traced.joins_eq clear
  case columns => exact parts.columns_eq clear

end Compiler

namespace Staff

def toDepartment : Hop := ⟨"Person", "department", "Department", false⟩

def toHead : Hop := ⟨"Department", "head", "Manager", false⟩

/-- The department and its head are come to on one way each, though both are passed more than
once. -/
def headhunt : Request :=
  search "Person" ["department.name", "department.head.level"] ["department.head.name", "name"]

def headhuntRoutes : List Route :=
  [⟨[toDepartment], "name", .text⟩, ⟨[toDepartment, toHead], "level", .int⟩,
    ⟨[toDepartment, toHead], "name", .text⟩, ⟨[], "name", .text⟩]

theorem faithful_headhunt : ∃ spec,
    (compiler.compile ∅ headhunt).2.outcome = .ok spec ∧
      Trail.Unambiguous (Trail.ofRoutes headhuntRoutes) ∧
      spec.joins.map (·.path) = ["department", "department.head"] ∧
      spec.Faithful headhunt headhuntRoutes := by
  have compiled : (compiler.compile ∅ headhunt).2.outcome = .ok _ := rfl
  have clear : Trail.Unambiguous (Trail.ofRoutes headhuntRoutes) := by decide
  obtain ⟨layout, routes, found, resolved, -, faithful⟩ := Compiler.faithful_of_compile compiled
  obtain rfl := Except.ok.inj (found.symm.trans rfl)
  obtain rfl : routes = headhuntRoutes := Except.ok.inj (resolved.symm.trans rfl)
  exact ⟨_, compiled, clear, rfl, faithful clear⟩

end Staff

end Criteria
