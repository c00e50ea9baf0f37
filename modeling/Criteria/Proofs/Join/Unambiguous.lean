import Criteria.Proofs.Join.Column
import Criteria.Proofs.Schema.Resolution

/-!
# Plans of unambiguous trails

When no two trails end alike, a key says the whole way to its association, and nothing is lost by
joining each key once: the joins are the distinct trails themselves, in the order in which they are
first passed, each under the trail it goes on from.
-/

namespace Criteria

namespace Trail

variable {trails : List Trail} {routes : List Route} {trail : Trail}

/-- No two of the trails that differ end with the same association. -/
def Unambiguous (trails : List Trail) : Prop :=
  ∀ trail ∈ trails, ∀ other ∈ trails, trail.getLast? = other.getLast? → trail = other

instance (trails : List Trail) : Decidable (Unambiguous trails) :=
  inferInstanceAs (Decidable
    (∀ trail ∈ trails, ∀ other ∈ trails, trail.getLast? = other.getLast? → trail = other))

/-- The names of the associations of a trail with dots between them. -/
def dotted (trail : Trail) : String := ".".intercalate (trail.map (·.2))

/-- Where a trail leads when there is a join for each of the trails, in order: to the root if it is
empty. -/
def sourceIn (trails : List Trail) (trail : Trail) : Source :=
  if trail = [] then .root else .join (trails.idxOf trail)

theorem mem_ofRoutes_iff : trail ∈ ofRoutes routes ↔
    trail ≠ [] ∧ ∃ route ∈ routes, trail <+: route.trail := by
  simp only [ofRoutes, List.mem_flatMap, mem_beginnings_iff]
  constructor
  · rintro ⟨route, mem, ne, begins⟩
    exact ⟨ne, route, mem, begins⟩
  · rintro ⟨ne, route, mem, begins⟩
    exact ⟨route, mem, ne, begins⟩

/-- The trail that a trail goes on from is passed, too. -/
theorem dropLast_mem_ofRoutes (mem : trail ∈ ofRoutes routes) (ne : trail.dropLast ≠ []) :
    trail.dropLast ∈ ofRoutes routes := by
  obtain ⟨-, route, mem, begins⟩ := mem_ofRoutes_iff.mp mem
  exact mem_ofRoutes_iff.mpr ⟨ne, route, mem, (List.dropLast_prefix trail).trans begins⟩

theorem trail_mem_ofRoutes {route : Route} (mem : route ∈ routes) (ne : route.trail ≠ []) :
    route.trail ∈ ofRoutes routes :=
  mem_ofRoutes_iff.mpr ⟨ne, route, mem, List.prefix_refl _⟩

theorem Unambiguous.first?_eq (clear : Unambiguous trails) (mem : trail ∈ trails) {key : JoinKey}
    (last : trail.getLast? = some key) : first? trails key = some trail := by
  cases first : first? trails key with
  | none => exact absurd (mem_ends_iff.mpr ⟨trail, mem, last⟩) (first?_eq_none_iff.mp first)
  | some other =>
    rw [clear trail mem other (mem_of_first? first) (last.trans (getLast?_of_first? first).symm)]

/-- An unambiguous trail is first come to by itself. -/
theorem Unambiguous.firstPath (clear : Unambiguous (ofRoutes routes)) {key : JoinKey}
    (mem : trail ∈ ofRoutes routes) (last : trail.getLast? = some key) :
    FirstPath (ofRoutes routes) key (dotted trail) := by
  induction trail using List.reverseRecOn generalizing key with
  | nil => cases last
  | append_singleton before own ih =>
    have first := clear.first?_eq mem last
    obtain rfl : own = key := by simpa using last
    have back : (before ++ [own]).dropLast = before := List.dropLast_concat
    cases start : before.getLast? with
    | none =>
      obtain rfl := List.getLast?_eq_none_iff.mp start
      exact .root first (by rw [back]; rfl)
    | some previous =>
      have ne : before ≠ [] := fun nil => by simp [nil] at start
      have passed : before ∈ ofRoutes routes := by
        have closed := dropLast_mem_ofRoutes mem
        rw [back] at closed
        exact closed ne
      have way := ih passed start
      rw [dotted, List.map_append,
        String.intercalate_append_of_ne_nil (by simpa using ne) (by simp)]
      exact .onward first (by rw [back]; exact start) way

end Trail

namespace JoinPlan

variable {plan : JoinPlan} {routes : List Route} {trail : Trail}

/-- The joins of unambiguous trails end with the associations of the distinct trails. -/
theorem Traced.map_keys (traced : plan.Traced (Trail.ofRoutes routes))
    (clear : Trail.Unambiguous (Trail.ofRoutes routes)) :
    plan.keys.map some = (Trail.ofRoutes routes).eraseDups.map List.getLast? := by
  have all : ((Trail.ofRoutes routes).filterMap List.getLast?).map some =
      (Trail.ofRoutes routes).map List.getLast? := by
    rw [List.map_filterMap]
    conv_rhs => rw [← List.filterMap_eq_map]
    apply List.filterMap_congr
    intro trail mem
    obtain ⟨ne, -⟩ := Trail.mem_ofRoutes_iff.mp mem
    simp [List.getLast?_eq_some_getLast ne]
  rw [traced.keys_eq, Trail.ends, ← eraseDups_map fun _ _ _ _ => Option.some.inj, all,
    eraseDups_map clear]

theorem Traced.exists_join (traced : plan.Traced (Trail.ofRoutes routes))
    (clear : Trail.Unambiguous (Trail.ofRoutes routes)) {i : Nat}
    (at_i : (Trail.ofRoutes routes).eraseDups[i]? = some trail) :
    ∃ join, plan.get? i = some join ∧ some join.key = trail.getLast? := by
  have same := congrArg (·[i]?) (traced.map_keys clear)
  simp only [keys, List.map_map, List.getElem?_map, at_i, Option.map_some] at same
  exact Option.map_eq_some_iff.mp same

/-- The join of an unambiguous trail stands where the trail does among the distinct trails. -/
theorem Traced.ends_sourceIn (traced : plan.Traced (Trail.ofRoutes routes))
    (clear : Trail.Unambiguous (Trail.ofRoutes routes))
    (mem : trail ≠ [] → trail ∈ Trail.ofRoutes routes) :
    plan.Ends trail.getLast? (Trail.sourceIn (Trail.ofRoutes routes).eraseDups trail) := by
  unfold Trail.sourceIn
  split
  · subst trail
    exact .root
  · rename_i ne
    have distinct : trail ∈ (Trail.ofRoutes routes).eraseDups := List.mem_eraseDups.mpr (mem ne)
    obtain ⟨join, found, last⟩ := traced.exists_join clear (List.getElem?_idxOf distinct)
    rw [← last]
    exact .join found

/-- A column of an unambiguous route hangs where the whole route leads, and its path is that of the
route. -/
theorem Traced.column_eq (traced : plan.Traced (Trail.ofRoutes routes))
    (clear : Trail.Unambiguous (Trail.ofRoutes routes)) {route : Route} (mem : route ∈ routes)
    {column : Column} (carries : plan.Carries route column) :
    column = ⟨Trail.sourceIn (Trail.ofRoutes routes).eraseDups route.trail, route.column,
      ".".intercalate route.path⟩ := by
  have passed : route.trail ≠ [] → route.trail ∈ Trail.ofRoutes routes :=
    Trail.trail_mem_ofRoutes mem
  have names : route.path = route.trail.map (·.2) ++ [route.column] := by
    rw [Route.path, Route.trail, List.map_map]
    rfl
  have source_eq := carries.ends.source_unique traced.wellFormed
    (traced.ends_sourceIn clear passed)
  have path_eq : column.path = ".".intercalate route.path := by
    rw [names]
    cases last : route.trail.getLast? with
    | none =>
      rw [carries.path_eq_of_root last, List.getLast?_eq_none_iff.mp last]
      rfl
    | some key =>
      have ne : route.trail ≠ [] := fun nil => by simp [nil] at last
      obtain ⟨path, first, eq⟩ := traced.exists_firstPath carries last
      rw [eq, first.unique (clear.firstPath (passed ne) last),
        String.intercalate_append_of_ne_nil (by simpa using ne) (by simp)]
      rfl
  obtain ⟨source, name, path⟩ := column
  rw [Column.mk.injEq]
  exact ⟨source_eq, carries.name_eq, path_eq⟩

/-- The joins of unambiguous trails are the distinct trails, in the order in which they are first
passed: the join of a trail hangs from where the trail before its last association leads, and its
path is that of the trail. -/
theorem Traced.joins_eq (traced : plan.Traced (Trail.ofRoutes routes))
    (clear : Trail.Unambiguous (Trail.ofRoutes routes)) :
    plan.joins.map (fun join => (join.id, some join.key, join.parent, join.path)) =
      (Trail.ofRoutes routes).eraseDups.map fun trail =>
        ((Trail.ofRoutes routes).eraseDups.idxOf trail, trail.getLast?,
          Trail.sourceIn (Trail.ofRoutes routes).eraseDups trail.dropLast, trail.dotted) := by
  apply List.ext_getElem?
  intro i
  rw [List.getElem?_map, List.getElem?_map]
  cases at_i : (Trail.ofRoutes routes).eraseDups[i]? with
  | none =>
    have same := congrArg (·[i]?) (traced.map_keys clear)
    simp only [keys, List.map_map, List.getElem?_map, at_i, Option.map_none,
      Option.map_eq_none_iff] at same
    rw [same]
    rfl
  | some trail =>
    obtain ⟨join, found, last⟩ := traced.exists_join clear at_i
    have wf := traced.wellFormed
    have passed : trail ∈ Trail.ofRoutes routes :=
      List.mem_eraseDups.mp (List.mem_of_getElem? at_i)
    have ne : trail ≠ [] := (Trail.mem_ofRoutes_iff.mp passed).1
    -- the join's number
    have stands := traced.ends_sourceIn clear fun _ => passed
    rw [← last] at stands
    have here := (Ends.join found).source_unique wf stands
    rw [Trail.sourceIn, if_neg ne] at here
    -- where it hangs
    obtain ⟨first, isFirst, parent⟩ := traced.origin join (mem_of_get? found)
    obtain rfl := Option.some.inj ((clear.first?_eq passed last.symm).symm.trans isFirst)
    have back := traced.ends_sourceIn clear (Trail.dropLast_mem_ofRoutes passed)
    have path := (traced.firstPath (mem_of_get? found)).unique
      (clear.firstPath passed last.symm)
    rw [show plan.joins[i]? = some join from found, Option.map_some, Option.map_some,
      wf.id_eq found, last, parent.source_unique wf back, path, Source.join.inj here]

end JoinPlan

end Criteria
