import Criteria.Proofs.Compilation.Outcome
import Criteria.Proofs.Join.Typing

/-!
# Specifications are typed

Over a registry every specification is well typed: every join's association is found from the entity
that the join hangs from, and every column asked for is found from the entity it hangs from.
-/

namespace Criteria

/-- The specification of a request makes sense over a registry: each join is one that the entity it
hangs from has, and each column asked for is a column of the entity it hangs from. -/
structure Specification.WellTyped (spec : Specification) (registry : Registry) (request : Request) :
    Prop where
  entity_eq : spec.entity = request.entity
  joins : ∀ join ∈ spec.joins, registry.TypesJoin spec.entity spec.plan join
  columns : ∀ column ∈ spec.columns request, registry.TypesColumn spec.entity spec.plan column

namespace Compiler

variable {registry : Registry} {config : Config} {cache : LayoutCache} {request : Request}

theorem Parts.exists_arrives {compiler : Compiler} (parts : compiler.Parts cache request) :
    ∃ entity, compiler.schema.entity? request.entity = some entity ∧
      ∀ route ∈ parts.routes, compiler.schema.Arrives entity route := by
  obtain ⟨entity, known⟩ := Option.isSome_iff_exists.mp parts.root_known
  refine ⟨entity, known, ?_⟩
  have arrive : List.Forall₂ (fun route path => compiler.schema.Arrives entity route ∧
      compiler.schema.resolve request.entity path = .ok route)
      parts.routes (compiler.paths parts.layout request) := by
    apply List.Forall₂.flip
    refine parts.forall₂_routes.imp fun path route resolved => ?_
    obtain ⟨-, entity', known', arrives⟩ := Schema.resolve_eq_ok_iff.mp resolved
    obtain rfl := Option.some.inj (known.symm.trans known')
    exact ⟨arrives, resolved⟩
  exact ((List.forall₂_and_left _ _).mp arrive).1

/-- Every specification that is compiled over a registry is well typed, also where a join is come to
from other entities than the one it was made from. -/
theorem wellTyped_of_compile {spec : Specification}
    (h : (compile ⟨registry.schema, config⟩ cache request).2.outcome = .ok spec) :
    spec.WellTyped registry request := by
  obtain ⟨parts, rfl⟩ := compile_eq_ok_iff.mp h
  obtain ⟨entity, known, arrive⟩ := parts.exists_arrives
  have empty : registry.Types request.entity ∅ := nofun
  obtain ⟨joins, columns⟩ := empty.hangAll JoinPlan.traced_empty known arrive
  refine ⟨rfl, ?_, ?_⟩
  · rw [parts.plan_specification, parts.joins_specification]
    exact joins
  · rw [parts.plan_specification, parts.columns_specification]
    exact columns

end Compiler

/-! ## A registry of staff -/

namespace Staff

/-- Persons have a boss and a department, and managers are persons. Departments have a head. -/
def registry : Registry :=
  let person : Entity := ⟨"Person", none,
    [.column "name" .text, .relation "boss" "Manager", .relation "department" "Department"]⟩
  let manager : Entity := ⟨"Manager", some "Person", [.column "level" .int]⟩
  let department : Entity := ⟨"Department", none,
    [.column "name" .text, .relation "head" "Manager"]⟩
  ((Registry.empty.insert person).insert manager).insert department

def compiler : Compiler := ⟨registry.schema, default⟩

/-- A search that sets a criterion for each dotted path, sorted by others. -/
def search (root : String) (paths sort : List String) : Request where
  type :=
    ⟨⟨0⟩, "Search", "Search",
      paths.map fun path => (FilterField.criterion path .text).withPath path⟩
  values _ := .text "x"
  entity := root
  extra := []
  sort := sort.map fun path => ⟨path, .ascending⟩

/-- The join of a person's department is made from the root, a manager, and come to again from the
head of that department and from the boss of that head. -/
def roundabout : Request :=
  search "Manager" ["department.head.boss.name", "boss.department.name"]
    ["department.head.department.name"]

theorem wellTyped_roundabout : ∃ spec,
    (compiler.compile ∅ roundabout).2.outcome = .ok spec ∧
      spec.joins.map (·.path) = ["department", "department.head", "department.head.boss"] ∧
      spec.WellTyped registry roundabout := by
  have compiled : (compiler.compile ∅ roundabout).2.outcome = .ok _ := rfl
  exact ⟨_, compiled, rfl, Compiler.wellTyped_of_compile compiled⟩

end Staff

end Criteria
