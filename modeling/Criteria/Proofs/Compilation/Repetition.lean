import Criteria.Proofs.Compilation.Typing
import Criteria.Proofs.Join.Repassing

/-!
# Paths that are mentioned again

A request mentions paths in criteria and in sort keys, and each mention is compiled on the joins
that those before it have left. A path that comes again has its column already: the associations on
it are joined, from wherever they were first come to, and each is known by its key. So the later
mention leaves the joins as they are, and its column is that of the earlier one. In which way either
of them is written does not matter.
-/

namespace Criteria

/-! ## Mentions -/

/-- What mentions a path in a request: a criterion that is set, or a sort key. -/
inductive Mention where
  | set (criterion : Criterion)
  | sort (key : SortKey)

namespace Mention

/-- The path that is mentioned, with names split at a separator. -/
def path (separator : Char) : Mention → List String
  | set criterion => criterion.segments separator
  | sort key => Text.split '.' key.path

/-- The ways to write a path: as the name of a field without a path of its own, as the dotted path
of a field, as the list of its segments, and as a sort key. -/
inductive Spells (separator : Char) (segments : List String) : Mention → Prop
  | name {field : FilterField} {values : FilterValue} (bare : field.path = [])
      (joined : field.name = (String.singleton separator).intercalate segments) :
      Spells separator segments (.set (.ofField values field))
  | dotted {field : FilterField} {values : FilterValue} :
      Spells separator segments
        (.set (.ofField values (field.withPath (".".intercalate segments))))
  | listed {field : FilterField} {values : FilterValue} :
      Spells separator segments (.set (.ofField values { field with path := segments }))
  | key {direction : Direction} :
      Spells separator segments (.sort ⟨".".intercalate segments, direction⟩)

end Mention

/-- Segments that can be written in every way: there are some, none is empty, and none has a dot or
the separator of names in it. -/
structure Spellable (separator : Char) (segments : List String) : Prop where
  ne_nil : segments ≠ []
  nonempty : ∀ segment ∈ segments, segment ≠ ""
  dotless : ∀ segment ∈ segments, '.' ∉ segment.toList
  unseparated : ∀ segment ∈ segments, separator ∉ segment.toList

theorem Spellable.split_dotted {separator : Char} {segments : List String}
    (spellable : Spellable separator segments) :
    Text.split '.' (".".intercalate segments) = segments :=
  Text.split_intercalate spellable.ne_nil spellable.dotless

/-- In whatever way a path is written, the same segments are read. -/
theorem Mention.Spells.path_eq {separator : Char} {segments : List String} {mention : Mention}
    (spells : mention.Spells separator segments) (spellable : Spellable separator segments) :
    mention.path separator = segments := by
  cases spells with
  | name bare joined =>
    rw [path, Criterion.segments, Criterion.ofField, if_pos bare, joined]
    exact Text.split_intercalate spellable.ne_nil spellable.unseparated
  | @dotted field values =>
    have kept : (field.withPath (".".intercalate segments)).path = segments := by
      rw [FilterField.withPath, spellable.split_dotted, List.filter_eq_self]
      simpa using spellable.nonempty
    rw [path, Criterion.segments, Criterion.ofField, kept, if_neg spellable.ne_nil]
  | listed => rw [path, Criterion.segments, Criterion.ofField, if_neg spellable.ne_nil]
  | key => exact spellable.split_dotted

namespace JoinPlan

/-- Routes leave the joins in front that the first few of them need. -/
theorem joins_isPrefix_hangAll_take (routes : List Route) (count : Nat) :
    ((∅ : JoinPlan).hangAll (routes.take count)).1.joins <+:
      ((∅ : JoinPlan).hangAll routes).1.joins := by
  obtain ⟨traced, -, -⟩ := traced_empty.hangAll (routes.take count)
  obtain ⟨-, grown, -⟩ := traced.hangAll (routes.drop count)
  conv => rhs; rw [← List.take_append_drop count routes, hangAll_append]
  exact grown

/-- A route that is passed again adds no join. -/
theorem hang_fst_of_mem {routes : List Route} {route : Route} (mem : route ∈ routes) :
    (((∅ : JoinPlan).hangAll routes).1.hang route).1 = ((∅ : JoinPlan).hangAll routes).1 := by
  obtain ⟨before, after, rfl⟩ := List.append_of_mem mem
  obtain ⟨traced, -, -⟩ := traced_empty.hangAll before
  obtain ⟨hung, -, -⟩ := traced.hang route
  obtain ⟨all, grown, -⟩ := hung.hangAll after
  rw [hangAll_append]
  exact congrArg Prod.fst (traced.wellFormed.pass_again all.wellFormed grown)

/-- A route that is passed again among others adds no join, and its column is the one that it has on
the joins of all. -/
theorem hang_of_mem_take {routes : List Route} {count : Nat} {route : Route} {column : Column}
    (mem : route ∈ routes.take count)
    (carries : ((∅ : JoinPlan).hangAll routes).1.Carries route column) :
    let plan := ((∅ : JoinPlan).hangAll (routes.take count)).1
    plan.hang route = (plan, column) := by
  obtain ⟨traced, -, -⟩ := traced_empty.hangAll (routes.take count)
  obtain ⟨all, -, -⟩ := traced_empty.hangAll routes
  have unchanged := hang_fst_of_mem mem
  obtain ⟨-, -, hung⟩ := traced.hang route
  rw [unchanged] at hung
  have same := (hung.mono (joins_isPrefix_hangAll_take routes count)).unique all.wellFormed carries
  exact Prod.ext unchanged same

end JoinPlan

namespace Compiler

variable {compiler : Compiler} {root : String} {overrides : Overrides} {plan : JoinPlan}
  {mention : Mention} {visited : List Mention} {route : Route} {routes : List Route}
  {cache : LayoutCache} {request : Request} {layout : FilterLayout}

/-! ## One mention after the other -/

/-- The mentions of a request in the order in which they are compiled. -/
def mentions (layout : FilterLayout) (request : Request) : List Mention :=
  (layout.setCriteria request.values).map .set ++ request.sort.map .sort

/-- Compiles one mention on a plan, to the predicate of its criterion or the term of its key: what
becomes of the plan, and the column. -/
def visit (compiler : Compiler) (root : String) (overrides : Overrides) (plan : JoinPlan) :
    Mention → Except QueryError (JoinPlan × Column)
  | .set criterion =>
    (compiler.predicate root overrides plan criterion).outcome.map fun made =>
      (made.1, made.2.column)
  | .sort key => (compiler.term root plan key).outcome.map fun made => (made.1, made.2.column)

/-- Compiles mentions one after the other, each on the plan that those before it have left. -/
def visitAll (compiler : Compiler) (root : String) (overrides : Overrides) (plan : JoinPlan) :
    List Mention → Except QueryError (JoinPlan × List Column)
  | [] => return (plan, [])
  | mention :: rest => do
    let made ← compiler.visit root overrides plan mention
    let others ← compiler.visitAll root overrides made.1 rest
    return (others.1, made.2 :: others.2)

/-- The mention leads along a route: its path is resolved to the route, and compiled on any plan it
hangs the column of the route there. -/
structure Leads (compiler : Compiler) (root : String) (overrides : Overrides) (mention : Mention)
    (route : Route) : Prop where
  resolve_eq : compiler.schema.resolve root (mention.path compiler.config.separator) = .ok route
  visit_eq : ∀ plan, compiler.visit root overrides plan mention = .ok (plan.hang route)

theorem leads_criterion {criterion : Criterion} {demand : Route × Comparison}
    (h : compiler.demand root overrides criterion = .ok demand) :
    compiler.Leads root overrides (.set criterion) demand.1 where
  resolve_eq := Parts.resolve_of_demand h
  visit_eq plan := by
    rw [visit, outcome_predicate, h]
    rfl

theorem leads_key {key : SortKey}
    (h : compiler.schema.resolve root (Text.split '.' key.path) = .ok route) :
    compiler.Leads root overrides (.sort key) route where
  resolve_eq := h
  visit_eq plan := by
    rw [visit, outcome_term, keyRoute, h]
    rfl

/-- Mentions that are equal in their paths lead along one route. -/
theorem Leads.route_unique {mention' : Mention} {route' : Route}
    (h : compiler.Leads root overrides mention route)
    (h' : compiler.Leads root overrides mention' route')
    (same : mention.path compiler.config.separator = mention'.path compiler.config.separator) :
    route = route' := by
  have resolved := h.resolve_eq
  rw [same] at resolved
  exact Except.ok.inj (resolved.symm.trans h'.resolve_eq)

theorem visitAll_eq (lead : List.Forall₂ (compiler.Leads root overrides) visited routes)
    (plan : JoinPlan) :
    compiler.visitAll root overrides plan visited = .ok (plan.hangAll routes) := by
  induction lead generalizing plan with
  | nil => rfl
  | cons head _ ih =>
    rw [visitAll, head.visit_eq, ok_bind, ih, ok_bind]
    rfl

namespace Parts

variable (parts : compiler.Parts cache request)

/-- Each mention leads along its route. -/
theorem forall₂_mentions : List.Forall₂ (compiler.Leads request.entity parts.overrides)
    (mentions parts.layout request) parts.routes := by
  apply List.rel_append
  · rw [List.forall₂_map_left_iff, List.forall₂_map_right_iff]
    exact parts.forall₂_demands.imp fun _ _ h => leads_criterion h
  · rw [List.forall₂_map_left_iff]
    exact parts.forall₂_ways.imp fun _ _ h => leads_key h

/-- A mention whose path has been mentioned before adds no join, and has the column of the one
before it. -/
theorem again {earlier later : Nat} {mention mention' : Mention} (lt : earlier < later)
    (at_earlier : (mentions parts.layout request)[earlier]? = some mention)
    (at_later : (mentions parts.layout request)[later]? = some mention')
    (same : mention.path compiler.config.separator = mention'.path compiler.config.separator) :
    let columns := (request.specification parts.demands parts.ways).columns request
    ∃ plan before column,
      compiler.visitAll request.entity parts.overrides ∅
          ((mentions parts.layout request).take later) = .ok (plan, before) ∧
        compiler.visit request.entity parts.overrides plan mention' = .ok (plan, column) ∧
        columns[earlier]? = some column ∧ columns[later]? = some column := by
  obtain ⟨route, routed, leads⟩ := exists_getElem?_of_forall₂ parts.forall₂_mentions at_earlier
  obtain ⟨route', routed', leads'⟩ := exists_getElem?_of_forall₂ parts.forall₂_mentions at_later
  obtain rfl := leads.route_unique leads' same
  obtain ⟨column, at_column, carries⟩ := exists_getElem?_of_forall₂ parts.forall₂_columns routed
  obtain ⟨column', at_column', carries'⟩ := exists_getElem?_of_forall₂ parts.forall₂_columns routed'
  obtain rfl := carries.unique parts.traced.wellFormed carries'
  have mem : route ∈ parts.routes.take later := by
    apply List.mem_of_getElem?
    rw [List.getElem?_take_of_lt lt]
    exact routed
  have before := visitAll_eq (List.forall₂_take later parts.forall₂_mentions) ∅
  refine ⟨_, _, column, before, ?_, at_column, at_column'⟩
  rw [leads'.visit_eq]
  exact congrArg Except.ok (JoinPlan.hang_of_mem_take mem carries)

end Parts

/-! ## One column for each path -/

/-- A specification has one column for each path that its request mentions. Its columns are found
by one mention after the other; a mention whose path has been mentioned before adds no join to those
that are there by then, and its column is the one of the mention before. Paths written in different
ways are the same when their segments are. -/
structure OneColumn (compiler : Compiler) (layout : FilterLayout) (overrides : Overrides)
    (request : Request) (spec : Specification) : Prop where
  visited : compiler.visitAll request.entity overrides ∅ (mentions layout request) =
    .ok (spec.plan, spec.columns request)
  again : ∀ {earlier later : Nat} {mention mention' : Mention}, earlier < later →
    (mentions layout request)[earlier]? = some mention →
    (mentions layout request)[later]? = some mention' →
    mention.path compiler.config.separator = mention'.path compiler.config.separator →
    ∃ plan before column,
      compiler.visitAll request.entity overrides ∅ ((mentions layout request).take later) =
          .ok (plan, before) ∧
        compiler.visit request.entity overrides plan mention' = .ok (plan, column) ∧
        (spec.columns request)[earlier]? = some column ∧
        (spec.columns request)[later]? = some column
  spelled : ∀ {segments : List String} {mention : Mention},
    Spellable compiler.config.separator segments →
    mention.Spells compiler.config.separator segments →
    mention.path compiler.config.separator = segments

/-- Every specification that is compiled has one column for each path. -/
theorem oneColumn_of_compile {spec : Specification}
    (h : (compiler.compile cache request).2.outcome = .ok spec) :
    ∃ layout overrides, compiler.layout cache request.type = .ok layout ∧
      layout.overrides request.values = .ok overrides ∧
      compiler.OneColumn layout overrides request spec := by
  obtain ⟨parts, rfl⟩ := compile_eq_ok_iff.mp h
  refine ⟨parts.layout, parts.overrides, parts.layout_eq, parts.overrides_eq, ?_⟩
  constructor
  case visited =>
    rw [parts.columns_specification, parts.plan_specification]
    exact visitAll_eq parts.forall₂_mentions ∅
  case again => exact parts.again
  case spelled => exact fun spellable spells => spells.path_eq spellable

end Compiler

namespace Staff

/-- The name of a person's department in every way to write it, with that of the boss's department
in between. -/
def spellings : Request where
  type := ⟨⟨3⟩, "Spellings", "Spellings", [
    .criterion "department_name" .text,
    (FilterField.criterion "elsewhere" .text).withPath "boss.department.name",
    (FilterField.criterion "dotted" .text).withPath "department.name",
    { FilterField.criterion "listed" .text with path := ["department", "name"] }]⟩
  values _ := .text "x"
  entity := "Person"
  extra := []
  sort := [⟨"department.name", .descending⟩]

theorem oneColumn_spellings : ∃ spec layout overrides,
    (compiler.compile ∅ spellings).2.outcome = .ok spec ∧
      compiler.OneColumn layout overrides spellings spec ∧
      spec.joins.map (·.path) = ["department", "boss"] ∧
      (spec.columns spellings)[0]? = (spec.columns spellings)[4]? := by
  have compiled : (compiler.compile ∅ spellings).2.outcome = .ok _ := rfl
  obtain ⟨layout, overrides, found, carried, one⟩ := Compiler.oneColumn_of_compile compiled
  refine ⟨_, layout, overrides, compiled, one, rfl, ?_⟩
  obtain rfl := Except.ok.inj (found.symm.trans rfl)
  obtain ⟨plan, before, column, -, -, first, last⟩ := one.again (Nat.zero_lt_succ 3) rfl rfl rfl
  exact first.trans last.symm

end Staff

end Criteria
