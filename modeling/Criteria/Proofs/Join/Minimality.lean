import Criteria.Proofs.Join.Unambiguous

/-!
# Joins that are needed

A join is needed if a column hangs from it or from a join below it. A route that passes an
association for the first time joins it, but goes on from wherever its next association is joined
already, and then the join may be left behind with nothing below it. None is left behind exactly
when each association is the last of a route or the one from which another is first come to.
-/

namespace Criteria

/-- The join of a number is needed for columns: one hangs from it, or a join does that is needed. -/
inductive JoinPlan.Needed (plan : JoinPlan) (columns : List Column) : Nat → Prop
  | column {column : Column} {id : Nat} (mem : column ∈ columns)
      (hangs : column.source = .join id) : Needed plan columns id
  | child {join : Join} {id : Nat} (mem : join ∈ plan.joins) (hangs : join.parent = .join id)
      (needed : Needed plan columns join.id) : Needed plan columns id

/-- Each association on the routes is the last of one, or another is first come to from it. -/
def Trail.AllUsed (routes : List Route) : Prop :=
  ∀ route ∈ routes, ∀ key ∈ route.trail,
    (∃ last ∈ routes, last.trail.getLast? = some key) ∨
      ∃ other trail, first? (ofRoutes routes) other = some trail ∧
        trail.dropLast.getLast? = some key

/-- Unambiguous routes use all their associations: one is the last of a route, or that route goes on
from it to another, to which there is no other way. -/
theorem Trail.Unambiguous.allUsed {routes : List Route} (clear : Unambiguous (ofRoutes routes)) :
    AllUsed routes := by
  intro route onRoute key mem
  obtain ⟨before, rest, way⟩ := List.append_of_mem mem
  cases rest with
  | nil =>
    refine .inl ⟨route, onRoute, ?_⟩
    rw [way, List.getLast?_concat]
  | cons next rest =>
    have onward : before ++ [key] ++ [next] ∈ ofRoutes routes := by
      refine mem_ofRoutes_iff.mpr ⟨by simp, route, onRoute, rest, ?_⟩
      simp [way]
    refine .inr ⟨next, before ++ [key] ++ [next], ?_, ?_⟩
    · exact clear.first?_eq onward List.getLast?_concat
    · rw [List.dropLast_concat, List.getLast?_concat]

namespace JoinPlan

variable {plan : JoinPlan} {trails : List Trail} {routes : List Route} {columns : List Column}

/-- A join from which neither a column nor a join hangs is not needed. -/
theorem not_needed {id : Nat} (columns_apart : ∀ column ∈ columns, column.source ≠ .join id)
    (joins_apart : ∀ join ∈ plan.joins, join.parent ≠ .join id) : ¬ plan.Needed columns id := by
  rintro (⟨mem, hangs⟩ | ⟨mem, hangs, -⟩)
  · exact columns_apart _ mem hangs
  · exact joins_apart _ mem hangs

theorem Traced.exists_join_of_mem_ends (traced : plan.Traced trails) {key : JoinKey}
    (mem : key ∈ Trail.ends trails) : ∃ id join, plan.get? id = some join ∧ join.key = key := by
  rw [← traced.keys_eq] at mem
  obtain ⟨join, joined, same⟩ := List.mem_map.mp mem
  obtain ⟨id, found⟩ := List.mem_iff_getElem?.mp joined
  exact ⟨id, join, found, same⟩

/-- What makes a join needed shows in the trails. -/
theorem Traced.used_of_needed (traced : plan.Traced (Trail.ofRoutes routes))
    (carried : List.Forall₂ plan.Carries routes columns) {id : Nat} {key : JoinKey}
    (ends : plan.Ends (some key) (.join id)) (needed : plan.Needed columns id) :
    (∃ last ∈ routes, last.trail.getLast? = some key) ∨
      ∃ other trail, Trail.first? (Trail.ofRoutes routes) other = some trail ∧
        trail.dropLast.getLast? = some key := by
  cases needed with
  | column mem hangs =>
    obtain ⟨route, onRoute, carries⟩ := exists_mem_right_of_forall₂ carried mem
    have last := carries.ends
    rw [hangs] at last
    exact .inl ⟨route, onRoute, last.key_unique ends⟩
  | child mem hangs =>
    obtain ⟨trail, first, parent⟩ := traced.origin _ mem
    rw [hangs] at parent
    exact .inr ⟨_, trail, first, parent.key_unique ends⟩

/-- When all associations are used all joins are needed, the last ones first: what hangs from a join
has a larger number. -/
theorem Traced.needed_of_allUsed (traced : plan.Traced (Trail.ofRoutes routes))
    (carried : List.Forall₂ plan.Carries routes columns) (used : Trail.AllUsed routes) {join : Join}
    (mem : join ∈ plan.joins) : plan.Needed columns join.id := by
  induction behind : plan.size - join.id using Nat.strong_induction_on generalizing join with
  | _ n ih =>
    obtain ⟨own, found⟩ := List.mem_iff_getElem?.mp mem
    obtain rfl := traced.wellFormed.id_eq found
    have ends : plan.Ends (some join.key) (.join join.id) := .join found
    have passed : join.key ∈ Trail.ends (Trail.ofRoutes routes) :=
      traced.keys_eq ▸ List.mem_map_of_mem mem
    obtain ⟨passing, onPassing, onTrail⟩ := Trail.mem_ends_ofRoutes_iff.mp passed
    rcases used passing onPassing join.key onTrail with
      ⟨route, onRoute, last⟩ | ⟨other, trail, first, back⟩
    · obtain ⟨column, mem, carries⟩ := exists_mem_left_of_forall₂ carried onRoute
      have hangs := carries.ends
      rw [last] at hangs
      exact .column mem (hangs.source_unique traced.wellFormed ends)
    · have joined : other ∈ Trail.ends (Trail.ofRoutes routes) :=
        Trail.mem_ends_iff.mpr ⟨trail, Trail.mem_of_first? first, Trail.getLast?_of_first? first⟩
      obtain ⟨_, child, foundChild, rfl⟩ := traced.exists_join_of_mem_ends joined
      have below := mem_of_get? foundChild
      obtain ⟨trail', first', parent⟩ := traced.origin child below
      obtain rfl := Option.some.inj (first.symm.trans first')
      rw [back] at parent
      have hangs := parent.source_unique traced.wellFormed ends
      have later := traced.wellFormed.parent_lt below hangs
      have within := lt_size_of_get? found
      exact .child below hangs (ih _ (by omega) below rfl)

/-- All joins are needed exactly when all associations are used. -/
theorem Traced.needed_iff_allUsed (traced : plan.Traced (Trail.ofRoutes routes))
    (carried : List.Forall₂ plan.Carries routes columns) :
    (∀ join ∈ plan.joins, plan.Needed columns join.id) ↔ Trail.AllUsed routes := by
  constructor
  · intro needed route onRoute key onTrail
    have passed := Trail.mem_ends_ofRoutes_iff.mpr ⟨route, onRoute, onTrail⟩
    obtain ⟨id, join, found, rfl⟩ := traced.exists_join_of_mem_ends passed
    obtain rfl := traced.wellFormed.id_eq found
    exact traced.used_of_needed carried (.join found) (needed join (mem_of_get? found))
  · intro used join mem
    exact traced.needed_of_allUsed carried used mem

end JoinPlan

end Criteria
