import Criteria.Proofs.Compilation.Typing

/-!
# Orders that do not depend on filters

A sort key hangs its column on the plan that the filter's criteria have left, and where an
association is joined already, it takes the path of the join for its own. Two requests with the same
sort keys are ordered alike exactly when their trails come first to the last association of each key
on the same path.
-/

namespace Criteria

/-- What a term orders by, wherever its column hangs: the column's name and dotted path, and the
direction. -/
def OrderTerm.reading (term : OrderTerm) : String × String × Direction :=
  (term.column.name, term.column.path, term.direction)

/-- Trails and other trails come first to the last association of a route on the same path, if the
route has associations. -/
def Trail.Agree (trails trails' : List Trail) (route : Route) : Prop :=
  ∀ key, route.trail.getLast? = some key →
    ∃ path, FirstPath trails key path ∧ FirstPath trails' key path

namespace JoinPlan

variable {plan plan' : JoinPlan} {trails trails' : List Trail} {route : Route}
  {column column' : Column}

/-- Columns that plans have for one route are at one path exactly when the trails agree on it. -/
theorem Traced.path_eq_path_iff (traced : plan.Traced trails) (traced' : plan'.Traced trails')
    (carries : plan.Carries route column) (carries' : plan'.Carries route column') :
    column.path = column'.path ↔ Trail.Agree trails trails' route := by
  constructor
  · intro same key last
    obtain ⟨path, first, eq⟩ := traced.exists_firstPath carries last
    obtain ⟨path', first', eq'⟩ := traced'.exists_firstPath carries' last
    obtain rfl : path = path' := by
      rw [eq, eq', String.append_left_inj, String.append_left_inj] at same
      exact same
    exact ⟨path, first, first'⟩
  · intro agree
    cases last : route.trail.getLast? with
    | none => rw [carries.path_eq_of_root last, carries'.path_eq_of_root last]
    | some key =>
      obtain ⟨path, first, first'⟩ := agree key last
      obtain ⟨own, way, eq⟩ := traced.exists_firstPath carries last
      obtain ⟨own', way', eq'⟩ := traced'.exists_firstPath carries' last
      rw [eq, eq', way.unique first, way'.unique first']

end JoinPlan

namespace Compiler

variable {compiler : Compiler} {cache cache' : LayoutCache} {request request' : Request}

/-- Two lists of routes agree on each sort key of a request: their trails come first to the last
association of its route on the same path. -/
def SortAgrees (compiler : Compiler) (request : Request) (routes routes' : List Route) : Prop :=
  ∀ key ∈ request.sort, ∀ route, compiler.keyRoute request.entity key = .ok route →
    Trail.Agree (Trail.ofRoutes routes) (Trail.ofRoutes routes') route

namespace Parts

variable (parts : compiler.Parts cache request) (parts' : compiler.Parts cache' request')

theorem forall₂_order_of_eq (entity : request'.entity = request.entity)
    (sort : request'.sort = request.sort) :
    List.Forall₂ (compiler.TermOf request.entity parts'.plan) request.sort
      (request'.specification parts'.demands parts'.ways).order := by
  rw [← sort, ← entity]
  exact parts'.forall₂_order

theorem order_names_eq (entity : request'.entity = request.entity)
    (sort : request'.sort = request.sort) :
    (request.specification parts.demands parts.ways).order.map
        (fun term => (term.column.name, term.direction)) =
      (request'.specification parts'.demands parts'.ways).order.map
        fun term => (term.column.name, term.direction) := by
  refine (map_eq_map_iff_of_forall₂ (P := fun _ => True) parts.forall₂_order
    (parts'.forall₂_order_of_eq entity sort) ?_).mpr fun _ _ => trivial
  rintro key term term' ⟨direction, route, routed, carries⟩ ⟨direction', route', routed', carries'⟩
  obtain rfl := Except.ok.inj (routed.symm.trans routed')
  simp only [carries.name_eq, carries'.name_eq, direction, direction']

theorem order_readings_eq_iff (entity : request'.entity = request.entity)
    (sort : request'.sort = request.sort) :
    (request.specification parts.demands parts.ways).order.map OrderTerm.reading =
        (request'.specification parts'.demands parts'.ways).order.map OrderTerm.reading ↔
      compiler.SortAgrees request parts.routes parts'.routes := by
  apply map_eq_map_iff_of_forall₂ parts.forall₂_order (parts'.forall₂_order_of_eq entity sort)
  rintro key term term' ⟨direction, route, routed, carries⟩ ⟨direction', route', routed', carries'⟩
  obtain rfl := Except.ok.inj (routed.symm.trans routed')
  have path := parts.traced.path_eq_path_iff parts'.traced carries carries'
  simp only [OrderTerm.reading, carries.name_eq, carries'.name_eq, direction, direction', path,
    Prod.mk.injEq, true_and, and_true]
  constructor
  · intro agree route' routed'
    obtain rfl := Except.ok.inj (routed.symm.trans routed')
    exact agree
  · intro agree
    exact agree route routed

end Parts

/-- Specifications of one entity with one sort are ordered by columns of the same names in the same
directions, whatever else their requests ask for, and by columns at the same paths exactly when the
routes of the requests agree on the sort keys. -/
theorem order_eq_iff_of_compile {spec spec' : Specification}
    (h : (compiler.compile cache request).2.outcome = .ok spec)
    (h' : (compiler.compile cache' request').2.outcome = .ok spec')
    (entity : request'.entity = request.entity) (sort : request'.sort = request.sort) :
    spec.order.map (fun term => (term.column.name, term.direction)) =
        spec'.order.map (fun term => (term.column.name, term.direction)) ∧
      ∃ routes routes', compiler.Routed cache request routes ∧
        compiler.Routed cache' request' routes' ∧
        (spec.order.map OrderTerm.reading = spec'.order.map OrderTerm.reading ↔
          compiler.SortAgrees request routes routes') := by
  obtain ⟨parts, rfl⟩ := compile_eq_ok_iff.mp h
  obtain ⟨parts', rfl⟩ := compile_eq_ok_iff.mp h'
  refine ⟨parts.order_names_eq parts' entity sort, ?_⟩
  exact ⟨parts.routes, parts'.routes, parts.routed, parts'.routed,
    parts.order_readings_eq_iff parts' entity sort⟩

end Compiler

namespace Staff

/-- Persons by department. -/
def byDepartment (paths : List String) : Request := search "Person" paths ["department.name"]

/-- A filter on the department itself leaves the order alone. -/
theorem sortAgrees_byDepartment : ∃ routes routes',
    compiler.Routed ∅ (byDepartment []) routes ∧
      compiler.Routed ∅ (byDepartment ["department.head.level"]) routes' ∧
      compiler.SortAgrees (byDepartment []) routes routes' := by
  have compiled : (compiler.compile ∅ (byDepartment [])).2.outcome = .ok _ := rfl
  have compiled' :
      (compiler.compile ∅ (byDepartment ["department.head.level"])).2.outcome = .ok _ := rfl
  obtain ⟨-, routes, routes', routed, routed', iff⟩ :=
    Compiler.order_eq_iff_of_compile compiled compiled' rfl rfl
  exact ⟨routes, routes', routed, routed', iff.mp rfl⟩

/-- A filter on the department of the boss has all persons ordered by the boss's department. -/
theorem order_byDepartment_ne : ∃ spec spec',
    (compiler.compile ∅ (byDepartment [])).2.outcome = .ok spec ∧
      (compiler.compile ∅ (byDepartment ["boss.department.name"])).2.outcome = .ok spec' ∧
      spec.order.map OrderTerm.reading = [("name", "department.name", .ascending)] ∧
      spec'.order.map OrderTerm.reading = [("name", "boss.department.name", .ascending)] := by
  exact ⟨_, _, rfl, rfl, rfl, rfl⟩

end Staff

end Criteria
