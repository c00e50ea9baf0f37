import Criteria.Proofs.Compilation.Turns

/-!
# The course of a compilation

A compilation tells its start, whether the layout was remembered, then of each criterion and of
each sort key in turn, and its end. `Compiler.Course` says so. When the compilation fails, the
events stop where it does. When it succeeds, they add up to the specification: `Compiler.Accounts`.
-/

namespace Criteria

namespace Compiler

variable {compiler : Compiler} {request : Request} {layout : FilterLayout} {overrides : Overrides}
  {plan plan' : JoinPlan}

/-! ## Compilations that fail -/

/-- The events at which a compilation stops with an error once it has a layout: none if the carrier
holds no operators or the root entity is unknown, those of the criteria up to the one that fails, or
those of all criteria and of the sort keys before the one that fails. -/
inductive Breaks (compiler : Compiler) (request : Request) (layout : FilterLayout) :
    QueryError → List Event → Prop
  | carrier {error : FilterError} (refused : layout.overrides request.values = .error error) :
      Breaks compiler request layout (.filter error) []
  | root {overrides : Overrides} (carried : layout.overrides request.values = .ok overrides)
      (unknown : compiler.schema.entity? request.entity = none) :
      Breaks compiler request layout (.path (.unknownEntity request.entity)) []
  | criterion {overrides : Overrides} {before after : List Criterion} {criterion : Criterion}
      {plan : JoinPlan} {told last : List Event} {error : QueryError}
      (carried : layout.overrides request.values = .ok overrides)
      (split : layout.read request.values = before ++ criterion :: after)
      (inTurn : InTurn (compiler.Tells request.entity overrides) ∅ before told plan)
      (stops : compiler.Stops request.entity overrides plan criterion error last) :
      Breaks compiler request layout error (told ++ last)
  | sort {overrides : Overrides} {before after : List SortKey} {key : SortKey}
      {plan plan' : JoinPlan} {told later : List Event} {lost : PathError}
      (carried : layout.overrides request.values = .ok overrides)
      (inTurn : InTurn (compiler.Tells request.entity overrides) ∅
        (layout.read request.values) told plan)
      (split : request.sort = before ++ key :: after)
      (inTurn' : InTurn (compiler.TellsKey request.entity) plan before later plan')
      (unresolved : compiler.schema.resolve request.entity (Text.split '.' key.path) =
        .error lost) :
      Breaks compiler request layout (.path lost) (told ++ later)

theorem breaks_assemble {error : QueryError}
    (h : (compiler.assemble request layout).outcome = .error error) :
    compiler.Breaks request layout error (compiler.assemble request layout).events := by
  unfold assemble at h ⊢
  rcases Logged.cases_of_bind_error h with ⟨h, silent⟩ | ⟨overrides, carried, h, told⟩
  · obtain ⟨refused, at_carrier, rfl⟩ := mapError_eq_error_iff.mp h
    rw [silent]
    exact .carrier at_carrier
  replace carried := mapError_eq_ok_iff.mp carried
  rw [told, Logged.events_lift, List.nil_append]
  rcases Logged.cases_of_bind_error h with ⟨h, silent⟩ | ⟨_, -, h, told⟩
  · obtain ⟨unknown, at_root, rfl⟩ := mapError_eq_error_iff.mp h
    obtain ⟨unknown, rfl⟩ := requireRoot_eq_error_iff.mp at_root
    rw [silent]
    exact .root carried unknown
  rw [told, Logged.events_lift, List.nil_append]
  rcases Logged.cases_of_bind_error h with ⟨h, told⟩ | ⟨⟨plan, predicates⟩, first, h, told⟩
  · obtain ⟨before, criterion, after, earlier, plan, last, split, inTurn, stops, eq⟩ :=
      stops_predicates h
    rw [told, eq]
    exact .criterion carried split inTurn stops
  rw [told]
  rcases Logged.cases_of_bind_error h with ⟨h, told⟩ | ⟨_, -, h, -⟩
  · obtain ⟨before, key, after, plan', lost, split, inTurn', unresolved, rfl⟩ := lost_order h
    rw [told]
    exact .sort carried (inTurn_predicates first).1 split inTurn' unresolved
  · cases h

/-! ## Compilations that succeed -/

/-- The events between the lookup of the layout and the end account for a specification. They are
those of the criteria and of the sort keys in turn; each criterion is dealt with once, and the
columns of the predicates, the joins and the associations passed are all told of. -/
structure Accounts (compiler : Compiler) (request : Request) (layout : FilterLayout)
    (spec : Specification) (told : List Event) : Prop where
  inTurn : ∃ overrides filtered sorted plan,
    layout.overrides request.values = .ok overrides ∧ told = filtered ++ sorted ∧
      InTurn (compiler.Tells request.entity overrides) ∅ (layout.read request.values) filtered
        plan ∧
      InTurn (compiler.TellsKey request.entity) plan request.sort sorted spec.plan
  dealt_eq : told.filterMap Event.dealt? = layout.criteria.map (·.name)
  length_dealt : (told.filterMap Event.skipped?).length + (told.filterMap Event.built?).length =
    layout.criteria.length
  built_eq : told.filterMap Event.built? =
    (spec.filterPredicates request).map (·.column.path)
  length_built : (told.filterMap Event.built?).length + request.extra.length =
    spec.predicates.length
  created_eq : told.filterMap Event.created? = spec.joins.map Join.made
  passed_eq : ∃ routes, compiler.routes layout request = .ok routes ∧
    told.filterMap Event.passed? = routes.flatMap Route.trail ∧
    (told.filterMap Event.passed?).length = (routes.flatMap (·.hops)).length

/-- The associations told of are those on the routes of the set criteria and of the sort keys. -/
theorem exists_routes_of_inTurn {filtered sorted : List Event}
    (inTurn : InTurn (compiler.Tells request.entity overrides) ∅ (layout.read request.values)
      filtered plan)
    (inTurn' : InTurn (compiler.TellsKey request.entity) plan request.sort sorted plan') :
    ∃ routes, compiler.routes layout request = .ok routes ∧
      (filtered ++ sorted).filterMap Event.passed? = routes.flatMap Route.trail := by
  obtain ⟨routes, resolved, passed⟩ :=
    inTurn.exists_routes fun _ _ _ _ tells => tells.exists_routes
  obtain ⟨ways, resolved', passed'⟩ :=
    inTurn'.exists_routes fun _ _ _ _ tells => tells.exists_routes
  rw [flatMap_asks] at resolved
  rw [← List.map_eq_flatMap] at resolved'
  refine ⟨routes ++ ways, ?_, ?_⟩
  · rw [Compiler.routes, mapM_eq_ok_iff, paths]
    exact List.rel_append resolved resolved'
  · rw [List.filterMap_append, passed, passed', List.flatMap_append]

/-- Criteria and sort keys that tell their events in turn account for the specification that they
make. -/
theorem accounts_of_inTurn {predicates : List Predicate} {filtered sorted : List Event}
    (carried : layout.overrides request.values = .ok overrides)
    (inTurn : InTurn (compiler.Tells request.entity overrides) ∅ (layout.read request.values)
      filtered plan)
    (columns : filtered.filterMap Event.built? = predicates.map (·.column.path))
    (inTurn' : InTurn (compiler.TellsKey request.entity) plan request.sort sorted plan')
    (order : List OrderTerm) :
    compiler.Accounts request layout
      ⟨request.entity, plan'.joins, predicates ++ request.extra, order⟩ (filtered ++ sorted) := by
  have dealt : (filtered ++ sorted).filterMap Event.dealt? = layout.criteria.map (·.name) := by
    rw [List.filterMap_append, inTurn.filterMap_eq fun _ _ _ _ tells => tells.dealt_eq,
      inTurn'.filterMap_eq_nil fun _ _ _ _ tells => tells.dealt_eq, List.append_nil,
      ← List.map_eq_flatMap, FilterLayout.read, List.map_map]
    rfl
  have built : (filtered ++ sorted).filterMap Event.built? = predicates.map (·.column.path) := by
    rw [List.filterMap_append, columns,
      inTurn'.filterMap_eq_nil fun _ _ _ _ tells => tells.built_eq, List.append_nil]
  constructor
  case inTurn => exact ⟨overrides, filtered, sorted, plan, carried, rfl, inTurn, inTurn'⟩
  case dealt_eq => exact dealt
  case length_dealt => rw [Event.length_filterMap_dealt?, dealt, List.length_map]
  case built_eq =>
    rw [built, Specification.filterPredicates, List.length_append, Nat.add_sub_cancel,
      List.take_left]
  case length_built => rw [built, List.length_map, List.length_append]
  case created_eq =>
    rw [inTurn'.made_eq fun _ _ _ _ tells => tells.made_eq,
      inTurn.made_eq fun _ _ _ _ tells => tells.made_eq, List.filterMap_append]
    rfl
  case passed_eq =>
    obtain ⟨routes, resolved, passed⟩ := exists_routes_of_inTurn inTurn inTurn'
    refine ⟨routes, resolved, passed, ?_⟩
    rw [passed]
    simp only [List.length_flatMap, Route.trail, List.length_map]

theorem accounts_assemble {spec : Specification}
    (h : (compiler.assemble request layout).outcome = .ok spec) :
    compiler.Accounts request layout spec (compiler.assemble request layout).events := by
  unfold assemble at h ⊢
  obtain ⟨overrides, carried, h, told⟩ := Logged.exists_of_bind_ok h
  obtain ⟨_, -, h, told_root⟩ := Logged.exists_of_bind_ok h
  obtain ⟨⟨plan, predicates⟩, first, h, told_criteria⟩ := Logged.exists_of_bind_ok h
  obtain ⟨⟨plan', order⟩, second, h, told_keys⟩ := Logged.exists_of_bind_ok h
  obtain rfl := Except.ok.inj h
  obtain ⟨inTurn, columns⟩ := inTurn_predicates first
  rw [told, told_root, told_criteria, told_keys, Logged.events_lift, Logged.events_lift,
    Logged.events_pure, List.nil_append, List.nil_append, List.append_nil]
  exact accounts_of_inTurn (mapError_eq_ok_iff.mp carried) inTurn columns (inTurn_order second)
    order

/-! ## Whole compilations -/

/-- The event that says whether a layout was remembered. -/
def opening (found : LayoutLookup) : Event :=
  if found.hit then .layoutFound found.layout.name else .layoutMade found.layout.name

/-- The courses that a compilation can take, each with all its events and its outcome. It starts,
and it ends with the error or with the size of the specification that it returns; the second event
says whether the layout was remembered, unless there is no layout. -/
inductive Course (compiler : Compiler) (cache : LayoutCache) (request : Request) :
    List Event → Except QueryError Specification → Prop
  | refused {error : FilterError}
      (unfound : (cache.lookup compiler.config.rememberLayouts request.type).2 = .error error) :
      Course compiler cache request
        [.compileStart request.type.name request.entity,
          .compileFailed request.type.name request.entity (.filter error)]
        (.error (.filter error))
  | failed {found : LayoutLookup} {error : QueryError} {told : List Event}
      (looked : (cache.lookup compiler.config.rememberLayouts request.type).2 = .ok found)
      (breaks : compiler.Breaks request found.layout error told) :
      Course compiler cache request
        ([.compileStart request.type.name request.entity, opening found] ++ told ++
          [.compileFailed request.type.name request.entity error])
        (.error error)
  | finished {found : LayoutLookup} {spec : Specification} {told : List Event}
      (looked : (cache.lookup compiler.config.rememberLayouts request.type).2 = .ok found)
      (accounts : compiler.Accounts request found.layout spec told) :
      Course compiler cache request
        ([.compileStart request.type.name request.entity, opening found] ++ told ++
          [.compileFinish request.type.name request.entity spec.predicates.length
            spec.joins.length])
        (.ok spec)

theorem assembleFound_ok (found : LayoutLookup) :
    compiler.assembleFound request (.ok found) =
      ⟨opening found :: (compiler.assemble request found.layout).events,
        (compiler.assemble request found.layout).outcome⟩ := rfl

/-- Every compilation takes its course. -/
theorem course_compile (compiler : Compiler) (cache : LayoutCache) (request : Request) :
    compiler.Course cache request (compiler.compile cache request).2.events
      (compiler.compile cache request).2.outcome := by
  simp only [compile, framed]
  cases looked : (cache.lookup compiler.config.rememberLayouts request.type).2 with
  | error error => exact .refused looked
  | ok found =>
    rw [assembleFound_ok]
    dsimp only
    cases assembled : (compiler.assemble request found.layout).outcome with
    | error error => exact .failed looked (breaks_assemble assembled)
    | ok spec => exact .finished looked (accounts_assemble assembled)

end Compiler

/-- The team is a text, which is compared by no order: its department is told of, and no predicate
for it. -/
example :
    let fields := [FilterField.criterion "name" .text,
      { (FilterField.criterion "team" .text).withPath "department.name" with
        operator := some .lessThan }]
    let request := { Staff.search "Person" [] [] with type := ⟨⟨0⟩, "Search", "Search", fields⟩ }
    (Staff.compiler.compile ∅ request).2.events =
      [.compileStart "Search" "Person", .layoutMade "Search",
        .predicateBuilt "name" .equal "name",
        .joined (.created "Person" "department" "department"),
        .compileFailed "Search" "Person"
          (.operator ⟨"team", .lessThan, .text, .text, .notNumber⟩)] := rfl

end Criteria
