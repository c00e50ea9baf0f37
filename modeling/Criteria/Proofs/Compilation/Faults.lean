import Criteria.Proofs.Compilation.Typing
import Criteria.Proofs.Filter.Layout

/-!
# The first fault of a request

The parts of a request are looked at one after the other: the model of its filter, the carrier's
value, the root entity, the set criteria, the sort keys. What a part is found to be does not depend
on the others. So a compilation succeeds when each part is sound by itself, and else it ends with
the error of the first that is not: `Compiler.FirstFault`.
-/

namespace Criteria

/-- The request with only one criterion left of its filter, whatever is added to it. The carrier
keeps its value, and nothing is sorted. -/
def Request.alone (request : Request) (layout : FilterLayout) (name : String)
    (extra : List Predicate) : Request :=
  { request with
    values := fun field =>
      if field = name ∨ layout.carrier = some field then request.values field else .null
    extra
    sort := [] }

namespace Compiler

variable {compiler : Compiler} {cache : LayoutCache} {request : Request} {layout : FilterLayout}
variable {root : String} {overrides : Overrides} {criterion : Criterion} {error : QueryError}

/-! ## Parts by themselves -/

/-- A criterion by itself is in order: its path resolves, and its operator goes with its value and
the column reached. -/
def Accepts (compiler : Compiler) (root : String) (overrides : Overrides) (criterion : Criterion) :
    Prop :=
  ∃ route comparison,
    compiler.schema.resolve root (criterion.segments compiler.config.separator) = .ok route ∧
      Comparison.ofField criterion.name (criterion.resolvedOperator overrides) criterion.value
        route.type compiler.config.escape = .ok comparison

/-- A criterion by itself is refused, for its path or, if that resolves, for its operator. -/
inductive Refuses (compiler : Compiler) (root : String) (overrides : Overrides)
    (criterion : Criterion) : QueryError → Prop
  | path {error : PathError}
      (lost : compiler.schema.resolve root (criterion.segments compiler.config.separator) =
        .error error) :
      Refuses compiler root overrides criterion (.path error)
  | operator {route : Route} {error : OperatorError}
      (resolved : compiler.schema.resolve root (criterion.segments compiler.config.separator) =
        .ok route)
      (unfit : Comparison.ofField criterion.name (criterion.resolvedOperator overrides)
        criterion.value route.type compiler.config.escape = .error error) :
      Refuses compiler root overrides criterion (.operator error)

theorem exists_demand_iff : (∃ demand, compiler.demand root overrides criterion = .ok demand) ↔
    compiler.Accepts root overrides criterion := by
  simp only [demand, bind_eq_ok_iff, mapError_eq_ok_iff, Accepts]
  constructor
  · rintro ⟨_, route, resolved, comparison, made, -⟩
    exact ⟨route, comparison, resolved, made⟩
  · rintro ⟨route, comparison, resolved, made⟩
    exact ⟨_, route, resolved, comparison, made, rfl⟩

theorem demand_eq_error_iff : compiler.demand root overrides criterion = .error error ↔
    compiler.Refuses root overrides criterion error := by
  simp only [demand, bind_eq_error_iff, mapError_eq_error_iff, mapError_eq_ok_iff]
  constructor
  · rintro (⟨lost, h, rfl⟩ | ⟨route, resolved, ⟨unfit, h, rfl⟩ | ⟨_, -, h⟩⟩)
    · exact .path h
    · exact .operator resolved h
    · cases h
  · rintro (⟨lost⟩ | ⟨resolved, unfit⟩)
    · exact .inl ⟨_, lost, rfl⟩
    · exact .inr ⟨_, resolved, .inl ⟨_, unfit, rfl⟩⟩

theorem exists_keyRoute_iff {key : SortKey} : (∃ route, compiler.keyRoute root key = .ok route) ↔
    ∃ route, compiler.schema.resolve root (Text.split '.' key.path) = .ok route := by
  simp only [keyRoute, mapError_eq_ok_iff]

/-- What a criterion is found to be does not depend on the joins planned before it. -/
theorem exists_predicate_iff {plan : JoinPlan} :
    (∃ built, (compiler.predicate root overrides plan criterion).outcome = .ok built) ↔
      compiler.Accepts root overrides criterion := by
  rw [outcome_predicate, ← exists_demand_iff]
  cases compiler.demand root overrides criterion <;> simp

theorem predicate_eq_error_iff {plan : JoinPlan} :
    (compiler.predicate root overrides plan criterion).outcome = .error error ↔
      compiler.Refuses root overrides criterion error := by
  rw [outcome_predicate, ← demand_eq_error_iff]
  cases compiler.demand root overrides criterion <;> simp

/-! ## The parts of a request in order -/

/-- The parts that come before the criteria are sound: the model has the layout, the value of the
carrier has the operators, and the root entity is known. -/
structure Opens (compiler : Compiler) (request : Request) (layout : FilterLayout)
    (overrides : Overrides) : Prop where
  checked : request.type.model.layout = .ok layout
  carried : layout.overrides request.values = .ok overrides
  known : (compiler.schema.entity? request.entity).isSome

/-- Each part of the request is sound by itself. -/
def Sound (compiler : Compiler) (request : Request) : Prop :=
  ∃ layout overrides, compiler.Opens request layout overrides ∧
    (∀ criterion ∈ layout.setCriteria request.values,
      compiler.Accepts request.entity overrides criterion) ∧
    ∀ key ∈ request.sort,
      ∃ route, compiler.schema.resolve request.entity (Text.split '.' key.path) = .ok route

/-- The first part of the request that is not sound by itself has the error. -/
inductive FirstFault (compiler : Compiler) (request : Request) : QueryError → Prop
  | model {error : FilterError} (refused : request.type.model.layout = .error error) :
      FirstFault compiler request (.filter error)
  | carrier {layout : FilterLayout} {error : FilterError}
      (checked : request.type.model.layout = .ok layout)
      (refused : layout.overrides request.values = .error error) :
      FirstFault compiler request (.filter error)
  | root {layout : FilterLayout} {overrides : Overrides}
      (checked : request.type.model.layout = .ok layout)
      (carried : layout.overrides request.values = .ok overrides)
      (unknown : compiler.schema.entity? request.entity = none) :
      FirstFault compiler request (.path (.unknownEntity request.entity))
  | criterion {layout : FilterLayout} {overrides : Overrides} {before after : List Criterion}
      {criterion : Criterion} {error : QueryError}
      (opens : compiler.Opens request layout overrides)
      (split : layout.setCriteria request.values = before ++ criterion :: after)
      (accepted : ∀ earlier ∈ before, compiler.Accepts request.entity overrides earlier)
      (refused : compiler.Refuses request.entity overrides criterion error) :
      FirstFault compiler request error
  | sort {layout : FilterLayout} {overrides : Overrides} {before after : List SortKey}
      {key : SortKey} {error : PathError}
      (opens : compiler.Opens request layout overrides)
      (accepted : ∀ criterion ∈ layout.setCriteria request.values,
        compiler.Accepts request.entity overrides criterion)
      (split : request.sort = before ++ key :: after)
      (resolved : ∀ earlier ∈ before,
        ∃ route, compiler.schema.resolve request.entity (Text.split '.' earlier.path) = .ok route)
      (lost : compiler.schema.resolve request.entity (Text.split '.' key.path) = .error error) :
      FirstFault compiler request (.path error)

theorem requireRoot_eq_error_iff {error : PathError} : compiler.requireRoot root = .error error ↔
    compiler.schema.entity? root = none ∧ error = .unknownEntity root := by
  unfold requireRoot
  cases compiler.schema.entity? root <;> simp [eq_comm]

theorem exists_demands_iff {criteria : List Criterion} :
    (∃ demands, criteria.mapM (compiler.demand root overrides) = .ok demands) ↔
      ∀ criterion ∈ criteria, compiler.Accepts root overrides criterion := by
  simp only [exists_mapM_eq_ok_iff, exists_demand_iff]

/-- The outcome of a compilation that remembers nothing, when the parts before the criteria are
sound. -/
theorem Opens.outcome_eq (off : compiler.config.rememberLayouts = false)
    (opens : compiler.Opens request layout overrides) :
    (compiler.compile cache request).2.outcome = do
      let demands ← (layout.setCriteria request.values).mapM
        (compiler.demand request.entity overrides)
      let ways ← request.sort.mapM (compiler.keyRoute request.entity)
      return request.specification demands ways := by
  rw [outcome_compile, layout_of_not_remember off, opens.checked, mapError_ok, ok_bind,
    outcome_assemble, opens.carried, mapError_ok, ok_bind, requireRoot_eq_ok_iff.mpr opens.known]
  rfl

theorem Opens.exists_spec_iff (off : compiler.config.rememberLayouts = false)
    (opens : compiler.Opens request layout overrides) :
    (∃ spec, (compiler.compile cache request).2.outcome = .ok spec) ↔
      (∀ criterion ∈ layout.setCriteria request.values,
        compiler.Accepts request.entity overrides criterion) ∧
      ∀ key ∈ request.sort,
        ∃ route, compiler.schema.resolve request.entity (Text.split '.' key.path) = .ok route := by
  rw [opens.outcome_eq off, ← exists_demands_iff]
  simp only [← exists_keyRoute_iff, ← exists_mapM_eq_ok_iff, bind_eq_ok_iff]
  constructor
  · rintro ⟨spec, demands, asked, ways, keyed, -⟩
    exact ⟨⟨demands, asked⟩, ways, keyed⟩
  · rintro ⟨⟨demands, asked⟩, ways, keyed⟩
    exact ⟨_, demands, asked, ways, keyed, rfl⟩

theorem Opens.eq_error_iff (off : compiler.config.rememberLayouts = false)
    (opens : compiler.Opens request layout overrides) :
    (compiler.compile cache request).2.outcome = .error error ↔
      (layout.setCriteria request.values).mapM (compiler.demand request.entity overrides) =
          .error error ∨
        (∀ criterion ∈ layout.setCriteria request.values,
          compiler.Accepts request.entity overrides criterion) ∧
        request.sort.mapM (compiler.keyRoute request.entity) = .error error := by
  rw [opens.outcome_eq off, ← exists_demands_iff]
  simp only [bind_eq_error_iff]
  constructor
  · rintro (refused | ⟨demands, asked, lost | ⟨_, -, h⟩⟩)
    · exact .inl refused
    · exact .inr ⟨⟨demands, asked⟩, lost⟩
    · cases h
  · rintro (refused | ⟨⟨demands, asked⟩, lost⟩)
    · exact .inl refused
    · exact .inr ⟨demands, asked, .inl lost⟩

theorem exists_spec_iff_sound (off : compiler.config.rememberLayouts = false) :
    (∃ spec, (compiler.compile cache request).2.outcome = .ok spec) ↔ compiler.Sound request := by
  constructor
  · rintro ⟨spec, h⟩
    obtain ⟨parts, -⟩ := compile_eq_ok_iff.mp h
    have opens : compiler.Opens request parts.layout parts.overrides :=
      ⟨by rw [← layout_of_not_remember off, parts.layout_eq], parts.overrides_eq,
        parts.root_known⟩
    exact ⟨parts.layout, parts.overrides, opens, (opens.exists_spec_iff off).mp ⟨spec, h⟩⟩
  · rintro ⟨layout, overrides, opens, sound⟩
    exact (opens.exists_spec_iff off).mpr sound

theorem outcome_of_model (off : compiler.config.rememberLayouts = false) {error : FilterError}
    (refused : request.type.model.layout = .error error) :
    (compiler.compile cache request).2.outcome = .error (.filter error) := by
  rw [outcome_compile, layout_of_not_remember off, refused]
  rfl

theorem outcome_of_carrier (off : compiler.config.rememberLayouts = false) {error : FilterError}
    (checked : request.type.model.layout = .ok layout)
    (refused : layout.overrides request.values = .error error) :
    (compiler.compile cache request).2.outcome = .error (.filter error) := by
  rw [outcome_compile, layout_of_not_remember off, checked, mapError_ok, ok_bind,
    outcome_assemble, refused]
  rfl

theorem outcome_of_root (off : compiler.config.rememberLayouts = false)
    (checked : request.type.model.layout = .ok layout)
    (carried : layout.overrides request.values = .ok overrides)
    (unknown : compiler.schema.entity? request.entity = none) :
    (compiler.compile cache request).2.outcome =
      .error (.path (.unknownEntity request.entity)) := by
  rw [outcome_compile, layout_of_not_remember off, checked, mapError_ok, ok_bind,
    outcome_assemble, carried, mapError_ok, ok_bind,
    requireRoot_eq_error_iff.mpr ⟨unknown, rfl⟩]
  rfl

theorem mapM_demand_eq_error_iff {criteria : List Criterion} :
    criteria.mapM (compiler.demand root overrides) = .error error ↔
      ∃ before criterion after, criteria = before ++ criterion :: after ∧
        (∀ earlier ∈ before, compiler.Accepts root overrides earlier) ∧
        compiler.Refuses root overrides criterion error := by
  simp only [mapM_eq_error_iff, exists_demand_iff, demand_eq_error_iff]

theorem mapM_keyRoute_eq_error_iff {keys : List SortKey} :
    keys.mapM (compiler.keyRoute root) = .error error ↔
      ∃ before key after, keys = before ++ key :: after ∧
        (∀ earlier ∈ before,
          ∃ route, compiler.schema.resolve root (Text.split '.' earlier.path) = .ok route) ∧
        ∃ lost, compiler.schema.resolve root (Text.split '.' key.path) = .error lost ∧
          error = .path lost := by
  simp only [mapM_eq_error_iff, exists_keyRoute_iff]
  simp only [keyRoute, mapError_eq_error_iff]

/-- A compilation ends with an error exactly when it is that of the first part that is not sound. -/
theorem eq_error_iff_firstFault (off : compiler.config.rememberLayouts = false) :
    (compiler.compile cache request).2.outcome = .error error ↔
      compiler.FirstFault request error := by
  constructor
  · intro h
    cases checked : request.type.model.layout with
    | error refused =>
      obtain rfl := Except.error.inj ((outcome_of_model off checked).symm.trans h)
      exact .model checked
    | ok layout =>
      cases carried : layout.overrides request.values with
      | error refused =>
        obtain rfl := Except.error.inj ((outcome_of_carrier off checked carried).symm.trans h)
        exact .carrier checked carried
      | ok overrides =>
        cases known : compiler.schema.entity? request.entity with
        | none =>
          obtain rfl := Except.error.inj ((outcome_of_root off checked carried known).symm.trans h)
          exact .root checked carried known
        | some entity =>
          have opens : compiler.Opens request layout overrides :=
            ⟨checked, carried, Option.isSome_of_mem known⟩
          rcases (opens.eq_error_iff off).mp h with asked | ⟨accepted, keyed⟩
          · obtain ⟨before, criterion, after, split, earlier, refused⟩ :=
              mapM_demand_eq_error_iff.mp asked
            exact .criterion opens split earlier refused
          · obtain ⟨before, key, after, split, resolved, lost, at_key, rfl⟩ :=
              mapM_keyRoute_eq_error_iff.mp keyed
            exact .sort opens accepted split resolved at_key
  · intro fault
    cases fault with
    | model refused => exact outcome_of_model off refused
    | carrier checked refused => exact outcome_of_carrier off checked refused
    | root checked carried unknown => exact outcome_of_root off checked carried unknown
    | criterion opens split accepted refused =>
      exact (opens.eq_error_iff off).mpr
        (.inl (mapM_demand_eq_error_iff.mpr ⟨_, _, _, split, accepted, refused⟩))
    | sort opens accepted split resolved lost =>
      exact (opens.eq_error_iff off).mpr (.inr ⟨accepted,
        mapM_keyRoute_eq_error_iff.mpr ⟨_, _, _, split, resolved, _, lost, rfl⟩⟩)

/-! ## Parts do not depend on each other -/

/-- What comes before the criteria stays sound when only one criterion is left. -/
theorem Opens.alone (opens : compiler.Opens request layout overrides) (name : String)
    (extra : List Predicate) :
    compiler.Opens (request.alone layout name extra) layout overrides where
  checked := opens.checked
  carried := by
    rw [← opens.carried]
    exact FilterLayout.overrides_congr fun carrier has => if_pos (.inr has)
  known := opens.known

/-- A set criterion of a request is the only set one when no other is left. -/
theorem Opens.setCriteria_alone (opens : compiler.Opens request layout overrides)
    (mem : criterion ∈ layout.setCriteria request.values) (extra : List Predicate) :
    layout.setCriteria (request.alone layout criterion.name extra).values = [criterion] := by
  rw [FilterLayout.setCriteria_eq] at mem
  obtain ⟨field, kept, rfl⟩ := List.mem_map.mp mem
  obtain ⟨declared, isSet⟩ := List.mem_filter.mp kept
  refine FilterModel.setCriteria_eq_singleton opens.checked declared isSet (if_pos (.inl rfl)) ?_
  intro other declared' apart
  have bare : ¬ (other.name = field.name ∨ layout.carrier = some other.name) :=
    not_or.mpr ⟨apart, FilterModel.name_ne_carrier_of_layout opens.checked declared'⟩
  exact if_neg bare

theorem Opens.exists_alone_iff (off : compiler.config.rememberLayouts = false)
    (opens : compiler.Opens request layout overrides)
    (mem : criterion ∈ layout.setCriteria request.values) (extra : List Predicate) :
    (∃ spec, (compiler.compile cache (request.alone layout criterion.name extra)).2.outcome =
        .ok spec) ↔
      compiler.Accepts request.entity overrides criterion := by
  have unsorted : (request.alone layout criterion.name extra).sort = [] := rfl
  rw [(opens.alone criterion.name extra).exists_spec_iff off, opens.setCriteria_alone mem extra,
    unsorted, List.forall_mem_singleton]
  exact and_iff_left nofun

theorem Opens.alone_eq_error_iff (off : compiler.config.rememberLayouts = false)
    (opens : compiler.Opens request layout overrides)
    (mem : criterion ∈ layout.setCriteria request.values) (extra : List Predicate) :
    (compiler.compile cache (request.alone layout criterion.name extra)).2.outcome =
        .error error ↔
      compiler.Refuses request.entity overrides criterion error := by
  have unsorted : (request.alone layout criterion.name extra).sort = [] := rfl
  rw [(opens.alone criterion.name extra).eq_error_iff off, opens.setCriteria_alone mem extra,
    unsorted, List.mapM_cons, bind_eq_error_iff, ← demand_eq_error_iff]
  constructor
  · rintro ((refused | ⟨_, -, h⟩) | ⟨-, h⟩)
    · exact refused
    · cases h
    · cases h
  · intro refused
    exact .inl (.inl refused)

/-- The compilation of a request is decided by its parts, each by itself. It succeeds when all of
them are sound, and else it ends with the error of the first that is not. A criterion is found to be
the same whatever joins are planned before it, and whatever other criteria, added predicates and
sort keys there are. And criteria that are skipped count for nothing, whatever they declare: only
the set ones do. -/
structure DecidedByParts (compiler : Compiler) (cache : LayoutCache) (request : Request) :
    Prop where
  exists_spec_iff :
    (∃ spec, (compiler.compile cache request).2.outcome = .ok spec) ↔ compiler.Sound request
  eq_error_iff : ∀ error, (compiler.compile cache request).2.outcome = .error error ↔
    compiler.FirstFault request error
  planned : ∀ root overrides plan criterion,
    ((∃ built, (compiler.predicate root overrides plan criterion).outcome = .ok built) ↔
      compiler.Accepts root overrides criterion) ∧
    ∀ error, (compiler.predicate root overrides plan criterion).outcome = .error error ↔
      compiler.Refuses root overrides criterion error
  alone : ∀ layout overrides, compiler.Opens request layout overrides →
    ∀ criterion ∈ layout.setCriteria request.values, ∀ extra,
      let single := compiler.compile cache (request.alone layout criterion.name extra)
      ((∃ spec, single.2.outcome = .ok spec) ↔
        compiler.Accepts request.entity overrides criterion) ∧
      ∀ error, single.2.outcome = .error error ↔
        compiler.Refuses request.entity overrides criterion error
  skipped : ∀ layout overrides, compiler.Opens request layout overrides →
    ∀ request' layout', compiler.Opens request' layout' overrides →
      request'.entity = request.entity → request'.sort = request.sort →
      layout'.setCriteria request'.values = layout.setCriteria request.values →
      ∀ error, (compiler.compile cache request').2.outcome = .error error ↔
        (compiler.compile cache request).2.outcome = .error error

/-- A compilation that remembers no layouts is decided by the parts of its request. -/
theorem decidedByParts (off : compiler.config.rememberLayouts = false) :
    compiler.DecidedByParts cache request where
  exists_spec_iff := exists_spec_iff_sound off
  eq_error_iff _ := eq_error_iff_firstFault off
  planned _ _ _ _ := ⟨exists_predicate_iff, fun _ => predicate_eq_error_iff⟩
  alone _ _ opens _ mem extra :=
    ⟨opens.exists_alone_iff off mem extra, fun _ => opens.alone_eq_error_iff off mem extra⟩
  skipped layout overrides opens request' layout' opens' entity sort same error := by
    rw [opens'.eq_error_iff off, opens.eq_error_iff off, entity, sort, same]

end Compiler

namespace Staff

/-- A compiler that remembers no layouts. -/
def forgetful : Compiler := ⟨registry.schema, { Config.standard with rememberLayouts := false }⟩

/-- A search with three faults: a text is compared by order, the boss has no salary, and a person is
no column to sort by. What the ignored criterion names does not exist either. -/
def mishaps : Request where
  type := ⟨⟨2⟩, "Mishaps", "Mishaps",
    [{ FilterField.criterion "no_where" .text with ignored := true },
      FilterField.criterion "name" .text,
      { (FilterField.criterion "team" .text).withPath "department.name" with
        operator := some .lessThan },
      FilterField.criterion "boss_salary" .int]⟩
  values _ := .text "x"
  entity := "Person"
  extra := []
  sort := [⟨"boss", .ascending⟩]

theorem decidedByParts_mishaps :
    (forgetful.compile ∅ mishaps).2.outcome =
        .error (.operator ⟨"team", .lessThan, .text, .text, .notNumber⟩) ∧
      forgetful.FirstFault mishaps (.operator ⟨"team", .lessThan, .text, .text, .notNumber⟩) ∧
      ¬ forgetful.Sound mishaps := by
  have failed : (forgetful.compile ∅ mishaps).2.outcome =
      .error (.operator ⟨"team", .lessThan, .text, .text, .notNumber⟩) := rfl
  have decided : forgetful.DecidedByParts ∅ mishaps := Compiler.decidedByParts rfl
  refine ⟨failed, (decided.eq_error_iff _).mp failed, ?_⟩
  intro sound
  obtain ⟨spec, compiled⟩ := decided.exists_spec_iff.mpr sound
  cases failed.symm.trans compiled

end Staff

end Criteria
