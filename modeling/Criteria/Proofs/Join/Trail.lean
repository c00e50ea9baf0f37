import Criteria.Proofs.Join.Invariant
import Criteria.Proofs.Lists
import Mathlib.Data.List.Infix

/-!
# The trails that a plan is made from

A route passes a trail to each of its associations: its beginnings. A join knows the last
association of a trail only, so of all trails that end alike the first one decides: the joins stand
in the order of the first trails to their associations, and each hangs from where its first trail
was before its last hop. `Traced` says so of a plan and a list of trails, and every plan is traced
by the trails of the routes passed.
-/

namespace Criteria

/-- A way from the root of a query: the associations crossed, in order. -/
abbrev Trail : Type := List JoinKey

/-- The whole way of a route. -/
def Route.trail (route : Route) : Trail := route.hops.map Hop.key

namespace Trail

variable {trails more : List Trail} {key : JoinKey}

/-- The trails passed on a way: its beginnings but for the empty one, shortest first. -/
def beginnings (way : Trail) : List Trail := way.inits.tail

/-- The trails passed on routes, one route after the other. -/
def ofRoutes (routes : List Route) : List Trail := routes.flatMap (·.trail.beginnings)

/-- The first trail that ends with an association. -/
def first? (trails : List Trail) (key : JoinKey) : Option Trail :=
  trails.find? (·.getLast? = some key)

/-- The associations that the trails end with, each once and in the order of the first. -/
def ends (trails : List Trail) : List JoinKey := (trails.filterMap List.getLast?).eraseDups

/-! ## Beginnings -/

theorem inits_eq_cons (way : Trail) : way.inits = [] :: way.beginnings := by
  cases way <;> simp [beginnings]

@[simp] theorem beginnings_nil : beginnings [] = [] := rfl

@[simp] theorem beginnings_cons (key : JoinKey) (rest : Trail) :
    beginnings (key :: rest) = [key] :: (beginnings rest).map (key :: ·) := by
  rw [beginnings, List.inits_cons, List.tail_cons, inits_eq_cons, List.map_cons]

theorem mem_beginnings_iff {trail way : Trail} :
    trail ∈ beginnings way ↔ trail ≠ [] ∧ trail <+: way := by
  rw [← List.mem_inits, inits_eq_cons, List.mem_cons]
  constructor
  · intro mem
    refine ⟨?_, .inr mem⟩
    cases way with
    | nil => cases mem
    | cons key rest =>
      rw [beginnings_cons] at mem
      rcases List.mem_cons.mp mem with rfl | mem
      · exact List.cons_ne_nil _ _
      · obtain ⟨tail, -, rfl⟩ := List.mem_map.mp mem
        exact List.cons_ne_nil _ _
  · rintro ⟨ne, nil | mem⟩
    · exact absurd nil ne
    · exact mem

/-- The trails on a way end with its associations, one after the other. -/
theorem filterMap_getLast?_beginnings (way : Trail) :
    (beginnings way).filterMap List.getLast? = way := by
  induction way with
  | nil => rfl
  | cons key rest ih =>
    have same : ∀ trail ∈ beginnings rest, (key :: trail).getLast? = trail.getLast? := by
      intro trail mem
      obtain ⟨ne, -⟩ := mem_beginnings_iff.mp mem
      rw [List.getLast?_cons, List.getLast?_eq_some_getLast ne, Option.getD_some]
    rw [beginnings_cons, List.filterMap_cons, List.getLast?_singleton, List.filterMap_map]
    exact congrArg (key :: ·) ((List.filterMap_congr same).trans ih)

/-! ## First trails -/

theorem first?_append (trails more : List Trail) (key : JoinKey) :
    first? (trails ++ more) key = (first? trails key).or (first? more key) := List.find?_append

theorem getLast?_of_first? {trail : Trail} (h : first? trails key = some trail) :
    trail.getLast? = some key := by simpa using List.find?_some h

theorem mem_of_first? {trail : Trail} (h : first? trails key = some trail) : trail ∈ trails :=
  List.mem_of_find?_eq_some h

theorem mem_ends_iff : key ∈ ends trails ↔ ∃ trail ∈ trails, trail.getLast? = some key := by
  rw [ends, List.mem_eraseDups, List.mem_filterMap]

/-- The trails passed on routes end with the associations of the routes, one after the other. -/
theorem ends_ofRoutes (routes : List Route) :
    ends (ofRoutes routes) = (routes.flatMap Route.trail).eraseDups := by
  rw [ends, ofRoutes, List.filterMap_flatMap]
  simp only [filterMap_getLast?_beginnings]

theorem mem_ends_ofRoutes_iff {routes : List Route} :
    key ∈ ends (ofRoutes routes) ↔ ∃ route ∈ routes, key ∈ route.trail := by
  rw [ends_ofRoutes, List.mem_eraseDups, List.mem_flatMap]

theorem first?_eq_none_iff : first? trails key = none ↔ key ∉ ends trails := by
  simp [first?, mem_ends_iff]

theorem ends_append_of_mem {trail : Trail} (last : trail.getLast? = some key)
    (mem : key ∈ ends trails) : ends (trails ++ [trail]) = ends trails := by
  rw [ends, List.filterMap_append, List.filterMap_cons_some last, List.filterMap_nil,
    eraseDups_concat_of_mem (List.mem_eraseDups.mp mem), ends]

theorem ends_append_of_not_mem {trail : Trail} (last : trail.getLast? = some key)
    (fresh : key ∉ ends trails) : ends (trails ++ [trail]) = ends trails ++ [key] := by
  rw [ends, List.filterMap_append, List.filterMap_cons_some last, List.filterMap_nil,
    eraseDups_concat_of_not_mem fun old => fresh (List.mem_eraseDups.mpr old), ends]

end Trail

namespace JoinPlan

variable {plan : JoinPlan} {source : Source} {trails : List Trail}

/-- The plan is the one that the trails make: its joins are those of their last associations, in
order, and each hangs from where the first trail to it leads but for its last hop. -/
structure Traced (plan : JoinPlan) (trails : List Trail) : Prop where
  wellFormed : plan.WellFormed
  keys_eq : plan.keys = Trail.ends trails
  origin : ∀ join ∈ plan.joins, ∃ trail,
    Trail.first? trails join.key = some trail ∧ plan.Ends trail.dropLast.getLast? join.parent

theorem traced_empty : (∅ : JoinPlan).Traced [] where
  wellFormed := wellFormed_empty
  keys_eq := rfl
  origin join mem := by cases mem

/-- The trail to an association that is joined is there already. -/
theorem Traced.first?_append (traced : plan.Traced trails) {key : JoinKey} (mem : key ∈ plan.keys)
    (more : List Trail) : Trail.first? (trails ++ more) key = Trail.first? trails key := by
  cases first : Trail.first? trails key with
  | none => exact absurd (traced.keys_eq ▸ mem) (Trail.first?_eq_none_iff.mp first)
  | some trail => rw [Trail.first?_append, first, Option.some_or]

/-- One hop adds one trail, the one that goes on by it. -/
theorem Traced.cross (traced : plan.Traced trails) {before : Trail}
    (ends : plan.Ends before.getLast? source) (hop : Hop) :
    (plan.cross source hop).1.Traced (trails ++ [before ++ [hop.key]]) := by
  obtain ⟨wf, grown, -⟩ := traced.wellFormed.cross ends hop
  have last : (before ++ [hop.key]).getLast? = some hop.key := List.getLast?_concat
  -- the joins that are there keep their first trails
  have old_origin : ∀ join ∈ plan.joins, ∃ trail,
      Trail.first? (trails ++ [before ++ [hop.key]]) join.key = some trail ∧
        (plan.cross source hop).1.Ends trail.dropLast.getLast? join.parent := by
    intro join mem
    obtain ⟨trail, first, parent⟩ := traced.origin join mem
    refine ⟨trail, ?_, parent.mono grown⟩
    rw [traced.first?_append (List.mem_map_of_mem mem)]
    exact first
  rcases cross_cases traced.wellFormed source hop with ⟨id, join, found, same, eq⟩ | ⟨fresh, eq⟩
  · rw [eq] at old_origin ⊢
    refine ⟨traced.wellFormed, ?_, old_origin⟩
    have mem : hop.key ∈ Trail.ends trails := by
      rw [← traced.keys_eq, ← same]
      exact key_mem_of_get? found
    rw [traced.keys_eq, Trail.ends_append_of_mem last mem]
  · rw [eq] at wf grown old_origin ⊢
    rw [traced.keys_eq] at fresh
    refine ⟨wf, ?_, ?_⟩
    · rw [Trail.ends_append_of_not_mem last fresh, ← traced.keys_eq, keys, keys, List.map_append]
      rfl
    · intro join mem
      rcases List.mem_append.mp mem with old | new
      · exact old_origin join old
      · obtain rfl := List.mem_singleton.mp new
        refine ⟨before ++ [hop.key], ?_, ?_⟩
        · rw [key_next, Trail.first?_append, Trail.first?_eq_none_iff.mpr fresh, Option.none_or]
          simp [Trail.first?]
        · rw [List.dropLast_concat]
          exact ends.mono grown

/-- A walk adds the trails on its way, each going on from where the walk began. -/
theorem Traced.walk (traced : plan.Traced trails) {before : Trail}
    (ends : plan.Ends before.getLast? source) (hops : List Hop) :
    (plan.walk source hops).1.Traced
        (trails ++ (Trail.beginnings (hops.map Hop.key)).map (before ++ ·)) ∧
      (plan.walk source hops).1.Ends (before ++ hops.map Hop.key).getLast?
        (plan.walk source hops).2.1 := by
  induction hops generalizing plan source before trails with
  | nil => simpa [JoinPlan.walk] using And.intro traced ends
  | cons hop rest ih =>
    obtain ⟨-, -, here⟩ := traced.wellFormed.cross ends hop
    have last : (before ++ [hop.key]).getLast? = some hop.key := List.getLast?_concat
    obtain ⟨traced', ends'⟩ := ih (traced.cross ends hop) (last ▸ here)
    rw [walk_cons]
    simp only [List.map_cons, Trail.beginnings_cons]
    simp only [List.append_assoc, List.singleton_append] at traced' ends'
    refine ⟨?_, ends'⟩
    simpa [Function.comp_def] using traced'

/-- A route adds the trails on its way from the root. -/
theorem Traced.pass (traced : plan.Traced trails) (route : Route) :
    (plan.pass route.hops).1.Traced (trails ++ route.trail.beginnings) ∧
      (plan.pass route.hops).1.Ends route.trail.getLast? (plan.pass route.hops).2.1 := by
  have ends : plan.Ends ([] : Trail).getLast? .root := .root
  have walked := traced.walk ends route.hops
  simp only [List.nil_append, List.map_id'] at walked
  exact walked

end JoinPlan

end Criteria
