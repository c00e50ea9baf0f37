import Criteria.Proofs.Compilation.Faults
import Criteria.Proofs.Event.Telling

/-!
# What criteria and sort keys tell in turn

A criterion that is skipped tells that, and one that is compared tells of the associations on its
route and then of its predicate; a sort key tells of the associations on its route. They do so in
turn, `InTurn`, and when one of them ends the compilation, the events stop with what it has told
until then.
-/

namespace Criteria

namespace Logged

variable {ε α β : Type} {x : Logged ε α} {k : α → Logged ε β}

/-- A computation that ends with a value has told the events of both its halves. -/
theorem exists_of_bind_ok {b : β} (h : (x >>= k).outcome = .ok b) :
    ∃ a, x.outcome = .ok a ∧ (k a).outcome = .ok b ∧
      (x >>= k).events = x.events ++ (k a).events := by
  rw [outcome_bind, bind_eq_ok_iff] at h
  obtain ⟨a, first, second⟩ := h
  exact ⟨a, first, second, events_bind_of_ok first k⟩

/-- One that ends with an error has told the events up to there. -/
theorem cases_of_bind_error {e : ε} (h : (x >>= k).outcome = .error e) :
    (x.outcome = .error e ∧ (x >>= k).events = x.events) ∨
      ∃ a, x.outcome = .ok a ∧ (k a).outcome = .error e ∧
        (x >>= k).events = x.events ++ (k a).events := by
  rw [outcome_bind, bind_eq_error_iff] at h
  rcases h with first | ⟨a, first, second⟩
  · exact .inl ⟨first, events_bind_of_error first k⟩
  · exact .inr ⟨a, first, second, events_bind_of_ok first k⟩

end Logged

namespace Compiler

variable {compiler : Compiler} {root : String} {overrides : Overrides} {plan plan' : JoinPlan}
  {criterion : Criterion} {key : SortKey}

/-! ## What a part tells -/

/-- What a criterion tells: that it is skipped, and why, or the associations on its route and then
its predicate. -/
inductive Tells (compiler : Compiler) (root : String) (overrides : Overrides) (plan : JoinPlan)
    (criterion : Criterion) : List Event → JoinPlan → Prop
  | ignored (ignored : criterion.ignored = true) :
      Tells compiler root overrides plan criterion [.fieldSkipped criterion.name .ignored] plan
  | unset (read : criterion.ignored = false) (null : criterion.value = .null) :
      Tells compiler root overrides plan criterion [.fieldSkipped criterion.name .unset] plan
  | compared {route : Route} {moves : List JoinMove} {plan' : JoinPlan}
      (isSet : criterion.isSet = true)
      (resolved : compiler.schema.resolve root (criterion.segments compiler.config.separator) =
        .ok route)
      (passes : plan.Moves route.trail moves plan') :
      Tells compiler root overrides plan criterion
        (moves.map .joined ++
          [.predicateBuilt criterion.name (criterion.resolvedOperator overrides)
            (plan.hang route).2.path]) plan'

/-- What a criterion tells that ends the compilation: nothing if its path does not resolve, and else
the associations on its route. -/
inductive Stops (compiler : Compiler) (root : String) (overrides : Overrides) (plan : JoinPlan)
    (criterion : Criterion) : QueryError → List Event → Prop
  | path {error : PathError} (isSet : criterion.isSet = true)
      (lost : compiler.schema.resolve root (criterion.segments compiler.config.separator) =
        .error error) :
      Stops compiler root overrides plan criterion (.path error) []
  | operator {route : Route} {error : OperatorError} {moves : List JoinMove} {plan' : JoinPlan}
      (isSet : criterion.isSet = true)
      (resolved : compiler.schema.resolve root (criterion.segments compiler.config.separator) =
        .ok route)
      (unfit : Comparison.ofField criterion.name (criterion.resolvedOperator overrides)
        criterion.value route.type compiler.config.escape = .error error)
      (passes : plan.Moves route.trail moves plan') :
      Stops compiler root overrides plan criterion (.operator error) (moves.map .joined)

/-- What a sort key tells: the associations on its route. -/
inductive TellsKey (compiler : Compiler) (root : String) (plan : JoinPlan) (key : SortKey) :
    List Event → JoinPlan → Prop
  | sorted {route : Route} {moves : List JoinMove} {plan' : JoinPlan}
      (resolved : compiler.schema.resolve root (Text.split '.' key.path) = .ok route)
      (passes : plan.Moves route.trail moves plan') :
      TellsKey compiler root plan key (moves.map .joined) plan'

theorem events_pass (plan : JoinPlan) (hops : List Hop) :
    (pass plan hops).events = (plan.pass hops).2.2.map .joined := List.append_nil _

theorem tells_skipped {reason : SkipReason} (h : skip? criterion = some reason) :
    compiler.Tells root overrides plan criterion [.fieldSkipped criterion.name reason] plan := by
  unfold skip? at h
  split at h
  · rename_i ignored
    obtain rfl := Option.some.inj h
    exact .ignored ignored
  · rename_i read
    split at h
    · rename_i null
      obtain rfl := Option.some.inj h
      exact .unset (by simpa using read) (Value.isNull_iff.mp null)
    · cases h

theorem events_predicate_of_ok {route : Route} {comparison : Comparison}
    (resolved : compiler.schema.resolve root (criterion.segments compiler.config.separator) =
      .ok route)
    (fits : Comparison.ofField criterion.name (criterion.resolvedOperator overrides)
      criterion.value route.type compiler.config.escape = .ok comparison) :
    (compiler.predicate root overrides plan criterion).events =
      (plan.pass route.hops).2.2.map .joined ++
        [.predicateBuilt criterion.name (criterion.resolvedOperator overrides)
          (plan.hang route).2.path] := by
  simp only [predicate, Compiler.route, resolved, fits, Logged.lift_ok_bind]
  rw [Logged.events_bind_of_ok (outcome_pass plan route.hops), events_pass]
  rfl

theorem events_predicate_of_path {error : PathError}
    (lost : compiler.schema.resolve root (criterion.segments compiler.config.separator) =
      .error error) :
    (compiler.predicate root overrides plan criterion).events = [] := by
  simp only [predicate, Compiler.route, lost, Logged.lift_error_bind]

theorem events_predicate_of_operator {route : Route} {error : OperatorError}
    (resolved : compiler.schema.resolve root (criterion.segments compiler.config.separator) =
      .ok route)
    (unfit : Comparison.ofField criterion.name (criterion.resolvedOperator overrides)
      criterion.value route.type compiler.config.escape = .error error) :
    (compiler.predicate root overrides plan criterion).events =
      (plan.pass route.hops).2.2.map .joined := by
  simp only [predicate, Compiler.route, resolved, unfit, Logged.lift_ok_bind,
    Logged.lift_error_bind]
  rw [Logged.events_bind_of_ok (outcome_pass plan route.hops), events_pass]
  exact List.append_nil _

/-- A criterion that is compared tells of its route and of its predicate. -/
theorem tells_predicate (isSet : criterion.isSet = true) {predicate : Predicate}
    (h : (compiler.predicate root overrides plan criterion).outcome = .ok (plan', predicate)) :
    compiler.Tells root overrides plan criterion
        (compiler.predicate root overrides plan criterion).events plan' ∧
      (compiler.predicate root overrides plan criterion).events.filterMap Event.built? =
        [predicate.column.path] := by
  obtain ⟨route, comparison, resolved, fits⟩ := exists_predicate_iff.mp ⟨_, h⟩
  have asked : compiler.demand root overrides criterion = .ok (route, comparison) := by
    rw [demand, resolved, mapError_ok, ok_bind, fits]
    rfl
  rw [outcome_predicate, asked] at h
  cases h
  rw [events_predicate_of_ok resolved fits]
  refine ⟨.compared isSet resolved (plan.moves_pass route), ?_⟩
  rw [List.filterMap_append, Event.filterMap_built?_joined]
  rfl

/-- A criterion that ends the compilation tells of its route, if it has one. -/
theorem stops_predicate (isSet : criterion.isSet = true) {error : QueryError}
    (h : (compiler.predicate root overrides plan criterion).outcome = .error error) :
    compiler.Stops root overrides plan criterion error
      (compiler.predicate root overrides plan criterion).events := by
  cases predicate_eq_error_iff.mp h with
  | path lost =>
    rw [events_predicate_of_path lost]
    exact .path isSet lost
  | operator resolved unfit =>
    rw [events_predicate_of_operator resolved unfit]
    exact .operator isSet resolved unfit (plan.moves_pass _)

theorem outcome_term_eq_ok_iff {built : JoinPlan × OrderTerm} :
    (compiler.term root plan key).outcome = .ok built ↔
      ∃ route, compiler.schema.resolve root (Text.split '.' key.path) = .ok route ∧
        built = ((plan.hang route).1, ⟨(plan.hang route).2, key.direction⟩) := by
  rw [outcome_term, keyRoute]
  cases compiler.schema.resolve root (Text.split '.' key.path) <;> simp [eq_comm]

/-- A sort key that resolves tells of its route. -/
theorem tellsKey_term {term : OrderTerm}
    (h : (compiler.term root plan key).outcome = .ok (plan', term)) :
    compiler.TellsKey root plan key (compiler.term root plan key).events plan' := by
  obtain ⟨route, resolved, built⟩ := outcome_term_eq_ok_iff.mp h
  cases built
  have told : (compiler.term root plan key).events =
      (plan.pass route.hops).2.2.map .joined := by
    simp only [Compiler.term, Compiler.route, resolved, Logged.lift_ok_bind]
    rw [Logged.events_bind_of_ok (outcome_pass plan route.hops), events_pass]
    exact List.append_nil _
  rw [told]
  exact .sorted resolved (plan.moves_pass route)

/-- One that does not resolve tells nothing. -/
theorem lost_term {error : QueryError} (h : (compiler.term root plan key).outcome = .error error) :
    (∃ lost, compiler.schema.resolve root (Text.split '.' key.path) = .error lost ∧
      error = .path lost) ∧ (compiler.term root plan key).events = [] := by
  rw [outcome_term, keyRoute] at h
  cases resolved : compiler.schema.resolve root (Text.split '.' key.path) with
  | ok route =>
    rw [resolved] at h
    cases h
  | error lost =>
    rw [resolved] at h
    cases h
    refine ⟨⟨lost, rfl, rfl⟩, ?_⟩
    simp only [Compiler.term, Compiler.route, resolved, Logged.lift_error_bind]

/-! ## What can be read of a part -/

/-- The paths that a criterion asks for: its own if it is set. -/
def asks (compiler : Compiler) (criterion : Criterion) : List (List String) :=
  if criterion.isSet then [criterion.segments compiler.config.separator] else []

theorem flatMap_asks (criteria : List Criterion) :
    criteria.flatMap compiler.asks =
      (criteria.filter (·.isSet)).map (·.segments compiler.config.separator) := by
  induction criteria with
  | nil => rfl
  | cons criterion rest ih =>
    rw [List.flatMap_cons, ih, List.filter_cons, asks]
    split <;> rfl

namespace Tells

variable {told : List Event}

/-- Each criterion is dealt with once. -/
theorem dealt_eq (tells : compiler.Tells root overrides plan criterion told plan') :
    told.filterMap Event.dealt? = [criterion.name] := by
  cases tells with
  | ignored | unset => rfl
  | compared =>
    rw [List.filterMap_append, Event.filterMap_dealt?_joined]
    rfl

theorem made_eq (tells : compiler.Tells root overrides plan criterion told plan') :
    plan'.joins.map Join.made = plan.joins.map Join.made ++ told.filterMap Event.created? := by
  cases tells with
  | ignored | unset => exact (List.append_nil _).symm
  | compared _ _ passes =>
    rw [List.filterMap_append, Event.filterMap_created?_joined, passes.made_eq]
    exact congrArg _ (List.append_nil _).symm

theorem exists_routes (tells : compiler.Tells root overrides plan criterion told plan') :
    ∃ routes, List.Forall₂ (fun path route => compiler.schema.resolve root path = .ok route)
      (compiler.asks criterion) routes ∧
      told.filterMap Event.passed? = routes.flatMap Route.trail := by
  cases tells with
  | ignored ignored =>
    refine ⟨[], ?_, rfl⟩
    simp [asks, Criterion.isSet_iff, ignored]
  | unset _ null =>
    refine ⟨[], ?_, rfl⟩
    simp [asks, Criterion.isSet_iff, null]
  | @compared route _ _ isSet resolved passes =>
    refine ⟨[route], ?_, ?_⟩
    · rw [asks, if_pos isSet]
      exact .cons resolved .nil
    · rw [List.filterMap_append, Event.filterMap_passed?_joined, passes.keys_eq]
      rfl

end Tells

namespace TellsKey

variable {told : List Event}

theorem dealt_eq (tells : compiler.TellsKey root plan key told plan') :
    told.filterMap Event.dealt? = [] := by
  cases tells with
  | sorted => exact Event.filterMap_dealt?_joined _

theorem built_eq (tells : compiler.TellsKey root plan key told plan') :
    told.filterMap Event.built? = [] := by
  cases tells with
  | sorted => exact Event.filterMap_built?_joined _

theorem made_eq (tells : compiler.TellsKey root plan key told plan') :
    plan'.joins.map Join.made = plan.joins.map Join.made ++ told.filterMap Event.created? := by
  cases tells with
  | sorted _ passes => rw [Event.filterMap_created?_joined, passes.made_eq]

theorem exists_routes (tells : compiler.TellsKey root plan key told plan') :
    ∃ routes, List.Forall₂ (fun path route => compiler.schema.resolve root path = .ok route)
      [Text.split '.' key.path] routes ∧
      told.filterMap Event.passed? = routes.flatMap Route.trail := by
  cases tells with
  | @sorted route _ _ resolved passes =>
    refine ⟨[route], .cons resolved .nil, ?_⟩
    rw [Event.filterMap_passed?_joined, passes.keys_eq]
    exact (List.append_nil _).symm

end TellsKey

/-! ## What parts tell in turn -/

/-- Criteria that all compile tell their events in turn, and among them the columns of their
predicates. -/
theorem inTurn_predicates {criteria : List Criterion} {predicates : List Predicate}
    (h : (compiler.predicates root overrides plan criteria).outcome = .ok (plan', predicates)) :
    InTurn (compiler.Tells root overrides) plan criteria
        (compiler.predicates root overrides plan criteria).events plan' ∧
      (compiler.predicates root overrides plan criteria).events.filterMap Event.built? =
        predicates.map (·.column.path) := by
  induction criteria generalizing plan predicates with
  | nil =>
    cases h
    exact ⟨.nil _, rfl⟩
  | cons criterion rest ih =>
    unfold Compiler.predicates at h ⊢
    cases skip : skip? criterion with
    | some reason =>
      simp only [skip] at h ⊢
      obtain ⟨_, _, h, told⟩ := Logged.exists_of_bind_ok h
      obtain ⟨inTurn, built⟩ := ih h
      rw [told]
      exact ⟨.cons (tells_skipped skip) inTurn, built⟩
    | none =>
      simp only [skip] at h ⊢
      obtain ⟨⟨between, predicate⟩, first, h, told⟩ := Logged.exists_of_bind_ok h
      obtain ⟨⟨_, others⟩, second, h, told'⟩ := Logged.exists_of_bind_ok h
      cases h
      obtain ⟨tells, column⟩ := tells_predicate (skip?_eq_none_iff.mp skip) first
      obtain ⟨inTurn, columns⟩ := ih second
      rw [told, told', Logged.events_pure, List.append_nil]
      refine ⟨.cons tells inTurn, ?_⟩
      rw [List.filterMap_append, column, columns, List.map_cons, List.singleton_append]

/-- Criteria of which one ends the compilation tell their events in turn up to this one. -/
theorem stops_predicates {criteria : List Criterion} {error : QueryError}
    (h : (compiler.predicates root overrides plan criteria).outcome = .error error) :
    ∃ before criterion after told plan' last, criteria = before ++ criterion :: after ∧
      InTurn (compiler.Tells root overrides) plan before told plan' ∧
      compiler.Stops root overrides plan' criterion error last ∧
      (compiler.predicates root overrides plan criteria).events = told ++ last := by
  induction criteria generalizing plan with
  | nil => cases h
  | cons criterion rest ih =>
    unfold Compiler.predicates at h ⊢
    cases skip : skip? criterion with
    | some reason =>
      simp only [skip] at h ⊢
      rcases Logged.cases_of_bind_error h with ⟨h, -⟩ | ⟨_, -, h, told⟩
      · cases h
      · obtain ⟨before, at_fault, after, earlier, plan', last, rfl, inTurn, stops, eq⟩ := ih h
        refine ⟨criterion :: before, at_fault, after, _, plan', last, rfl,
          .cons (tells_skipped skip) inTurn, stops, ?_⟩
        rw [told, eq, List.append_assoc]
        rfl
    | none =>
      simp only [skip] at h ⊢
      have isSet := skip?_eq_none_iff.mp skip
      rcases Logged.cases_of_bind_error h with ⟨h, told⟩ | ⟨⟨between, predicate⟩, first, h, told⟩
      · exact ⟨[], criterion, rest, [], plan, _, rfl, .nil plan, stops_predicate isSet h, told⟩
      · rcases Logged.cases_of_bind_error h with ⟨h, told'⟩ | ⟨_, -, h, -⟩
        · obtain ⟨before, at_fault, after, earlier, plan', last, rfl, inTurn, stops, eq⟩ := ih h
          refine ⟨criterion :: before, at_fault, after, _, plan', last, rfl,
            .cons (tells_predicate isSet first).1 inTurn, stops, ?_⟩
          rw [told, told', eq, List.append_assoc]
        · cases h

/-- Sort keys that all resolve tell their events in turn. -/
theorem inTurn_order {keys : List SortKey} {terms : List OrderTerm}
    (h : (compiler.order root plan keys).outcome = .ok (plan', terms)) :
    InTurn (compiler.TellsKey root) plan keys (compiler.order root plan keys).events plan' := by
  induction keys generalizing plan terms with
  | nil =>
    cases h
    exact .nil _
  | cons key rest ih =>
    unfold order at h ⊢
    obtain ⟨⟨between, term⟩, first, h, told⟩ := Logged.exists_of_bind_ok h
    obtain ⟨⟨_, others⟩, second, h, told'⟩ := Logged.exists_of_bind_ok h
    cases h
    rw [told, told', Logged.events_pure, List.append_nil]
    exact .cons (tellsKey_term first) (ih second)

/-- Sort keys of which one does not resolve tell their events in turn up to this one. -/
theorem lost_order {keys : List SortKey} {error : QueryError}
    (h : (compiler.order root plan keys).outcome = .error error) :
    ∃ before key after plan' lost, keys = before ++ key :: after ∧
      InTurn (compiler.TellsKey root) plan before (compiler.order root plan keys).events plan' ∧
      compiler.schema.resolve root (Text.split '.' key.path) = .error lost ∧
      error = .path lost := by
  induction keys generalizing plan with
  | nil => cases h
  | cons key rest ih =>
    unfold order at h ⊢
    rcases Logged.cases_of_bind_error h with ⟨h, told⟩ | ⟨⟨between, term⟩, first, h, told⟩
    · obtain ⟨⟨lost, resolved, eq⟩, silent⟩ := lost_term h
      rw [told, silent]
      exact ⟨[], key, rest, plan, lost, rfl, .nil plan, resolved, eq⟩
    · rcases Logged.cases_of_bind_error h with ⟨h, told'⟩ | ⟨_, -, h, -⟩
      · obtain ⟨before, at_fault, after, plan', lost, rfl, inTurn, resolved, eq⟩ := ih h
        rw [told, told']
        exact ⟨key :: before, at_fault, after, plan', lost, rfl,
          .cons (tellsKey_term first) inTurn, resolved, eq⟩
      · cases h

end Compiler

end Criteria
