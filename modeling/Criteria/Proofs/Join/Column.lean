import Criteria.Predicate.Basic
import Criteria.Proofs.Join.Trail

/-!
# Columns and the paths of their joins

A route passes its associations and hangs its column from the last of them. The dotted path that
the column then has is not its own but that of the join it hangs from, and so the path on which the
trails first came to the association: `Trail.FirstPath`.
-/

namespace Criteria

/-- The dotted path on which trails first come to an association: that of the association before it
on the first trail to it, and its name. -/
inductive Trail.FirstPath (trails : List Trail) : JoinKey → String → Prop
  | root {key : JoinKey} {trail : Trail} (first : first? trails key = some trail)
      (start : trail.dropLast.getLast? = none) : FirstPath trails key key.2
  | onward {key before : JoinKey} {trail : Trail} {path : String}
      (first : first? trails key = some trail) (back : trail.dropLast.getLast? = some before)
      (way : FirstPath trails before path) : FirstPath trails key (path ++ "." ++ key.2)

/-- Trails come to an association first on one path. -/
theorem Trail.FirstPath.unique {trails : List Trail} {key : JoinKey} {path path' : String}
    (h : FirstPath trails key path) (h' : FirstPath trails key path') : path = path' := by
  induction h generalizing path' with
  | root first start =>
    cases h' with
    | root => rfl
    | onward first' back =>
      obtain rfl := Option.some.inj (first.symm.trans first')
      cases start.symm.trans back
  | onward first back _ ih =>
    cases h' with
    | root first' start =>
      obtain rfl := Option.some.inj (first.symm.trans first')
      cases start.symm.trans back
    | onward first' back' way' =>
      obtain rfl := Option.some.inj (first.symm.trans first')
      obtain rfl := Option.some.inj (back.symm.trans back')
      rw [ih way']

namespace JoinPlan

variable {plan plan' : JoinPlan} {trails : List Trail} {route : Route} {column : Column}

/-- Passes the associations of a route and hangs its column where they lead. -/
def hang (plan : JoinPlan) (route : Route) : JoinPlan × Column :=
  let passed := plan.pass route.hops
  (passed.1, .ofPlan passed.1 passed.2.1 route.column)

/-- Hangs the columns of routes, one after the other. -/
def hangAll (plan : JoinPlan) : List Route → JoinPlan × List Column
  | [] => (plan, [])
  | route :: rest =>
    let hung := plan.hang route
    let others := hung.1.hangAll rest
    (others.1, hung.2 :: others.2)

/-- The column is that of the route: it hangs from the join of the last association on the route,
and its path goes on from that of the join. -/
structure Carries (plan : JoinPlan) (route : Route) (column : Column) : Prop where
  name_eq : column.name = route.column
  ends : plan.Ends route.trail.getLast? column.source
  path_eq : column.path = dotted (plan.pathOf column.source) route.column

theorem Carries.mono (grown : plan.joins <+: plan'.joins) (h : plan.Carries route column) :
    plan'.Carries route column where
  name_eq := h.name_eq
  ends := h.ends.mono grown
  path_eq := by rw [h.ends.pathOf_eq grown, h.path_eq]

/-- A route has one column on a plan. -/
theorem Carries.unique (wf : plan.WellFormed) {column' : Column} (h : plan.Carries route column)
    (h' : plan.Carries route column') : column = column' := by
  have source : column.source = column'.source := h.ends.source_unique wf h'.ends
  have name : column.name = column'.name := h.name_eq.trans h'.name_eq.symm
  have path : column.path = column'.path := by rw [h.path_eq, h'.path_eq, source]
  obtain ⟨_, _, _⟩ := column
  obtain ⟨_, _, _⟩ := column'
  exact (Column.mk.injEq ..).mpr ⟨source, name, path⟩

/-! ## Hanging the columns of routes -/

@[simp] theorem length_hangAll (plan : JoinPlan) (routes : List Route) :
    (plan.hangAll routes).2.length = routes.length := by
  induction routes generalizing plan with
  | nil => rfl
  | cons route rest ih => rw [hangAll, List.length_cons, ih, List.length_cons]

theorem Traced.hang (traced : plan.Traced trails) (route : Route) :
    (plan.hang route).1.Traced (trails ++ route.trail.beginnings) ∧
      plan.joins <+: (plan.hang route).1.joins ∧
      (plan.hang route).1.Carries route (plan.hang route).2 := by
  obtain ⟨traced', ends⟩ := traced.pass route
  exact ⟨traced', joins_isPrefix_walk plan .root route.hops, ⟨rfl, ends, rfl⟩⟩

/-- Routes add the trails on their ways, in order, and every one has its column at the end. -/
theorem Traced.hangAll (traced : plan.Traced trails) (routes : List Route) :
    (plan.hangAll routes).1.Traced (trails ++ Trail.ofRoutes routes) ∧
      plan.joins <+: (plan.hangAll routes).1.joins ∧
      List.Forall₂ (plan.hangAll routes).1.Carries routes (plan.hangAll routes).2 := by
  induction routes generalizing plan trails with
  | nil =>
    rw [Trail.ofRoutes, List.flatMap_nil, List.append_nil]
    exact ⟨traced, List.prefix_refl _, .nil⟩
  | cons route rest ih =>
    obtain ⟨hung, grown, carries⟩ := traced.hang route
    obtain ⟨all, grown', carried⟩ := ih hung
    rw [List.append_assoc] at all
    exact ⟨all, grown.trans grown', .cons (carries.mono grown') carried⟩

theorem hangAll_append (plan : JoinPlan) (routes more : List Route) :
    plan.hangAll (routes ++ more) =
      let first := plan.hangAll routes
      let second := first.1.hangAll more
      (second.1, first.2 ++ second.2) := by
  induction routes generalizing plan with
  | nil => rfl
  | cons route rest ih =>
    rw [List.cons_append, hangAll, ih]
    rfl

/-! ## Paths of joins and columns -/

/-- The path of a join is the one on which the trails first came to its association. -/
theorem Traced.firstPath (traced : plan.Traced trails) {join : Join} (mem : join ∈ plan.joins) :
    Trail.FirstPath trails join.key join.path := by
  -- parents have smaller numbers
  induction number : join.id using Nat.strong_induction_on generalizing join with
  | _ id ih =>
    obtain ⟨trail, first, parent⟩ := traced.origin join mem
    rw [traced.wellFormed.path_eq mem]
    cases hangs : join.parent with
    | root =>
      rw [hangs] at parent
      exact .root first parent.eq_none
    | join above =>
      rw [hangs] at parent
      obtain ⟨parentJoin, found, back⟩ := parent.exists_key
      have lt : parentJoin.id < id := by
        rw [traced.wellFormed.id_eq found, ← number]
        exact traced.wellFormed.parent_lt mem hangs
      have way := ih _ lt (mem_of_get? found) rfl
      rw [pathOf, found]
      exact .onward first back way

/-- The path of a column goes on from the one on which the trails first come to the last association
of its route. -/
theorem Traced.exists_firstPath (traced : plan.Traced trails) (carries : plan.Carries route column)
    {key : JoinKey} (last : route.trail.getLast? = some key) :
    ∃ path, Trail.FirstPath trails key path ∧ column.path = path ++ "." ++ route.column := by
  obtain ⟨id, join, at_join, found, rfl⟩ := (last ▸ carries.ends).exists_get?
  refine ⟨join.path, traced.firstPath (mem_of_get? found), ?_⟩
  rw [carries.path_eq, at_join, pathOf, found]
  rfl

/-- The path of a column without associations is its name. -/
theorem Carries.path_eq_of_root (carries : plan.Carries route column)
    (start : route.trail.getLast? = none) : column.path = route.column := by
  have ends := carries.ends
  rw [start] at ends
  rw [carries.path_eq, ends.eq_root]
  rfl

end JoinPlan

end Criteria
