import Criteria.Proofs.Compilation.Typing
import Criteria.Proofs.Join.Minimality

/-!
# Specifications without joins to spare

The joins of a specification are inner joins, and one that is not needed still drops rows. All of
them are needed as long as the routes of the request are unambiguous, and beyond that exactly when
the routes use all the associations they pass.
-/

namespace Criteria

/-- Each join of the specification is one that a column asked for hangs from, or another join that
is needed. -/
def Specification.Minimal (spec : Specification) (request : Request) : Prop :=
  ∀ join ∈ spec.joins, spec.plan.Needed (spec.columns request) join.id

/-- A specification is minimal exactly when the routes of its request use all the associations that
they pass, and so it is when they are unambiguous. -/
theorem Compiler.minimal_iff_of_compile {compiler : Compiler} {cache : LayoutCache}
    {request : Request} {spec : Specification}
    (h : (compiler.compile cache request).2.outcome = .ok spec) :
    ∃ routes, compiler.Routed cache request routes ∧
      (spec.Minimal request ↔ Trail.AllUsed routes) ∧
      (Trail.Unambiguous (Trail.ofRoutes routes) → spec.Minimal request) := by
  obtain ⟨parts, rfl⟩ := compile_eq_ok_iff.mp h
  have minimal_iff : (request.specification parts.demands parts.ways).Minimal request ↔
      Trail.AllUsed parts.routes := by
    rw [Specification.Minimal, parts.plan_specification, parts.joins_specification]
    exact parts.traced.needed_iff_allUsed parts.forall₂_columns
  refine ⟨parts.routes, parts.routed, minimal_iff, ?_⟩
  intro clear
  exact minimal_iff.mpr clear.allUsed

namespace Staff

/-- The boss's department is that of the person's own, as it is joined first, and the boss is left
behind. -/
def detour : Request := search "Person" ["department.name", "boss.department.name"] []

/-- The other way round the boss is needed, to come to the department from. -/
def errand : Request := search "Person" ["boss.department.name", "department.name"] []

theorem minimal_errand : ∃ spec routes,
    (compiler.compile ∅ errand).2.outcome = .ok spec ∧ compiler.Routed ∅ errand routes ∧
      spec.joins.map (·.path) = ["boss", "boss.department"] ∧
      spec.Minimal errand ∧ Trail.AllUsed routes := by
  have compiled : (compiler.compile ∅ errand).2.outcome = .ok _ := rfl
  obtain ⟨routes, routed, iff, -⟩ := Compiler.minimal_iff_of_compile compiled
  refine ⟨_, routes, compiled, routed, rfl, ?_⟩
  rw [← iff, and_self]
  -- both columns hang from the join of the department, and that hangs from the boss
  refine List.forall_mem_cons.mpr ⟨?boss, List.forall_mem_singleton.mpr ?department⟩
  case department => exact .column List.mem_cons_self rfl
  case boss =>
    exact .child (List.mem_cons_of_mem _ List.mem_cons_self) rfl (.column List.mem_cons_self rfl)

theorem not_minimal_detour : ∃ spec,
    (compiler.compile ∅ detour).2.outcome = .ok spec ∧
      spec.joins.map (·.path) = ["department", "boss"] ∧ ¬ spec.Minimal detour := by
  refine ⟨_, rfl, rfl, ?_⟩
  intro minimal
  refine JoinPlan.not_needed ?_ ?_ (minimal ⟨1, "Person", "boss", "Manager", .root, "boss"⟩ ?_)
  · decide
  · decide
  · decide

end Staff

end Criteria
