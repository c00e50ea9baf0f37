import Criteria.Proofs.Compilation.Remembering
import Criteria.Proofs.Event.Counting

/-!
# What compilations add to a tally

A compilation moves one of two counters when it ends, and one of two others when it has a layout.
Its parts move the rest, and when it succeeds, they are the parts of its specification. `Tallies`
says so of many compilations at once, and their counts add up.
-/

namespace Criteria

/-! ## Compilations made -/

/-- A compilation, with the layouts remembered when it is made. -/
structure Execution where
  compilation : Compilation
  cache : LayoutCache

namespace Execution

variable (execution : Execution)

def events : List Event := (execution.compilation.run execution.cache).2.events

def outcome : Except QueryError Specification :=
  (execution.compilation.run execution.cache).2.outcome

/-- What the lookup of its layout came to. -/
def found : Except FilterError LayoutLookup :=
  (execution.compilation.lookup execution.cache).2

/-- The number of predicates that the filter has in the specification. -/
def predicates : Nat :=
  match execution.outcome with
  | .ok spec => (spec.filterPredicates execution.compilation.request).length
  | .error _ => 0

/-- The number of joins in the specification. -/
def joins : Nat :=
  match execution.outcome with
  | .ok spec => spec.joins.length
  | .error _ => 0

/-- The number of criteria of its layout. -/
def criteria : Nat :=
  match execution.found with
  | .ok found => found.layout.criteria.length
  | .error _ => 0

end Execution

/-- What is counted of parts is what is in the specifications of compilations and, with what is
skipped, in their layouts. -/
structure TalliesParts (count : Counter → Nat) (executions : List Execution) : Prop where
  predicates_eq : count .predicates = (executions.map (·.predicates)).sum
  joinsCreated_eq : count .joinsCreated = (executions.map (·.joins)).sum
  dealt_eq : count .fieldsSkipped + count .predicates = (executions.map (·.criteria)).sum

/-- The numbers on counters are those of compilations. Every compilation counts as made or as
failed, and every lookup that has a layout counts as one that found it or as one that had to make
it. The parts are those of the specifications when all compilations succeed. -/
structure Tallies (count : Counter → Nat) (executions : List Execution) : Prop where
  compiles_eq : count .compiles = executions.countP (·.outcome.isOk)
  failures_eq : count .failures = executions.countP (!·.outcome.isOk)
  lookups_eq : count .cacheHits + count .cacheMisses = executions.countP (·.found.isOk)
  parts : (∀ execution ∈ executions, execution.outcome.isOk) → TalliesParts count executions

section

variable {count count' : Counter → Nat} {executions executions' : List Execution}

theorem TalliesParts.append (first : TalliesParts count executions)
    (second : TalliesParts count' executions') :
    TalliesParts (fun counter => count counter + count' counter) (executions ++ executions') where
  predicates_eq := by
    rw [List.map_append, List.sum_append, first.predicates_eq, second.predicates_eq]
  joinsCreated_eq := by
    rw [List.map_append, List.sum_append, first.joinsCreated_eq, second.joinsCreated_eq]
  dealt_eq := by
    rw [List.map_append, List.sum_append, ← first.dealt_eq, ← second.dealt_eq]
    exact Nat.add_add_add_comm _ _ _ _

namespace Tallies

theorem nil : Tallies (fun _ => 0) [] where
  compiles_eq := rfl
  failures_eq := rfl
  lookups_eq := rfl
  parts _ := ⟨rfl, rfl, rfl⟩

theorem append (first : Tallies count executions) (second : Tallies count' executions') :
    Tallies (fun counter => count counter + count' counter) (executions ++ executions') where
  compiles_eq := by rw [List.countP_append, first.compiles_eq, second.compiles_eq]
  failures_eq := by rw [List.countP_append, first.failures_eq, second.failures_eq]
  lookups_eq := by
    rw [List.countP_append, ← first.lookups_eq, ← second.lookups_eq]
    exact Nat.add_add_add_comm _ _ _ _
  parts all := by
    obtain ⟨all, all'⟩ := List.forall_mem_append.mp all
    exact (first.parts all).append (second.parts all')

/-- The counter of queries is of no compilation. -/
theorem congr (tallies : Tallies count executions)
    (same : ∀ counter, counter ≠ .queries → count' counter = count counter) :
    Tallies count' executions where
  compiles_eq := by rw [same .compiles nofun, tallies.compiles_eq]
  failures_eq := by rw [same .failures nofun, tallies.failures_eq]
  lookups_eq := by rw [same .cacheHits nofun, same .cacheMisses nofun, tallies.lookups_eq]
  parts all := by
    obtain ⟨predicates_eq, joinsCreated_eq, dealt_eq⟩ := tallies.parts all
    constructor
    case predicates_eq => rw [same .predicates nofun, predicates_eq]
    case joinsCreated_eq => rw [same .joinsCreated nofun, joinsCreated_eq]
    case dealt_eq => rw [same .fieldsSkipped nofun, same .predicates nofun, dealt_eq]

end Tallies

end

namespace Compiler

variable {compiler : Compiler} {cache : LayoutCache} {request : Request}

theorem count_opening (found : LayoutLookup) (counter : Counter) :
    counter.count [opening found] =
      if counter = (if found.hit then .cacheHits else .cacheMisses) then 1 else 0 := by
  rw [Counter.count_singleton, opening]
  cases found.hit <;> simp [Event.counter?, eq_comm]

theorem count_closing (ended : Except QueryError Specification) (counter : Counter) :
    counter.count [closing request ended] =
      if counter = (if ended.isOk then .compiles else .failures) then 1 else 0 := by
  rw [Counter.count_singleton]
  cases ended <;> simp [closing, Event.counter?, Except.isOk, Except.toBool, eq_comm]

end Compiler

namespace Execution

variable {execution : Execution} {found : LayoutLookup}

/-- What is put together for the layout found. -/
def assembled (execution : Execution) (found : LayoutLookup) : Logged QueryError Specification :=
  execution.compilation.compiler.assemble execution.compilation.request found.layout

theorem run_of_found (looked : execution.found = .ok found) :
    (execution.compilation.run execution.cache).2 =
      ⟨[.compileStart execution.compilation.request.type.name execution.compilation.request.entity,
            Compiler.opening found] ++ (execution.assembled found).events ++
          [Compiler.closing execution.compilation.request (execution.assembled found).outcome],
        (execution.assembled found).outcome⟩ := Compiler.compile_of_found looked

theorem outcome_of_found (looked : execution.found = .ok found) :
    execution.outcome = (execution.assembled found).outcome :=
  congrArg (·.outcome) (run_of_found looked)

/-- With a layout, the counters are moved by how it was found, by the parts and by how the
compilation ended. -/
theorem count_of_found (looked : execution.found = .ok found) (counter : Counter) :
    counter.count execution.events =
      (if counter = (if found.hit then .cacheHits else .cacheMisses) then 1 else 0) +
        counter.count (execution.assembled found).events +
        if counter = (if execution.outcome.isOk then .compiles else .failures) then 1 else 0 := by
  have told := congrArg (·.events) (run_of_found looked)
  rw [events, told, outcome_of_found looked]
  simp only [Counter.count_append]
  rw [Counter.count_cons, Compiler.count_opening, Compiler.count_closing, Counter.count_singleton]
  simp [Event.counter?]

/-- Parts move their counters alone. -/
theorem count_of_part (looked : execution.found = .ok found) {counter : Counter}
    (part : counter.isOfPart) :
    counter.count execution.events = counter.count (execution.assembled found).events := by
  rw [count_of_found looked, if_neg, if_neg, Nat.zero_add, Nat.add_zero]
  · rintro rfl
    split at part <;> cases part
  · rintro rfl
    split at part <;> cases part

theorem count_of_frame (looked : execution.found = .ok found) {counter : Counter}
    (other : counter.isOfPart = false) :
    counter.count execution.events =
      (if counter = (if found.hit then .cacheHits else .cacheMisses) then 1 else 0) +
        if counter = (if execution.outcome.isOk then .compiles else .failures) then 1 else 0 := by
  rw [count_of_found looked, Counter.count_eq_zero_of_parts _ other, Nat.add_zero]
  exact Compiler.isOfPart_of_mem_assemble _ _

/-- The parts of a compilation that succeeds are those of its specification. -/
theorem talliesParts_of_isOk (looked : execution.found = .ok found)
    (isOk : execution.outcome.isOk) : TalliesParts (·.count execution.events) [execution] := by
  obtain ⟨spec, ended⟩ : ∃ spec, execution.outcome = .ok spec := by
    cases ended : execution.outcome with
    | error error =>
      rw [ended] at isOk
      cases isOk
    | ok spec => exact ⟨spec, rfl⟩
  have accounts := Compiler.accounts_assemble ((outcome_of_found looked).symm.trans ended)
  constructor
  case predicates_eq =>
    rw [count_of_part looked rfl, Counter.count_predicates, assembled, accounts.built_eq,
      List.length_map, List.map_singleton, List.sum_singleton, predicates, ended]
  case joinsCreated_eq =>
    rw [count_of_part looked rfl, Counter.count_joinsCreated, assembled, accounts.created_eq,
      List.length_map, List.map_singleton, List.sum_singleton, joins, ended]
  case dealt_eq =>
    rw [count_of_part looked rfl, count_of_part looked rfl, Counter.count_fieldsSkipped,
      Counter.count_predicates, assembled, accounts.length_dealt, List.map_singleton,
      List.sum_singleton, criteria, looked]

theorem tallies_of_found (looked : execution.found = .ok found) :
    Tallies (·.count execution.events) [execution] := by
  constructor
  case compiles_eq =>
    rw [count_of_frame looked rfl, List.countP_singleton]
    cases found.hit <;> cases execution.outcome.isOk <;> rfl
  case failures_eq =>
    rw [count_of_frame looked rfl, List.countP_singleton]
    cases found.hit <;> cases execution.outcome.isOk <;> rfl
  case lookups_eq =>
    rw [count_of_frame looked rfl, count_of_frame looked rfl, List.countP_singleton, looked]
    cases found.hit <;> cases execution.outcome.isOk <;> rfl
  case parts => exact fun all => talliesParts_of_isOk looked (all execution List.mem_cons_self)

/-- Without a layout a compilation counts as failed, and nothing else is counted. -/
theorem tallies_of_unfound {error : FilterError} (unfound : execution.found = .error error) :
    Tallies (·.count execution.events) [execution] := by
  have run : (execution.compilation.run execution.cache).2 = _ :=
    Compiler.compile_of_unfound unfound
  have failed : execution.outcome = .error (.filter error) := congrArg (·.outcome) run
  have told := congrArg (·.events) run
  constructor
  case compiles_eq =>
    rw [events, told, List.countP_singleton, failed]
    rfl
  case failures_eq =>
    rw [events, told, List.countP_singleton, failed]
    rfl
  case lookups_eq =>
    rw [events, told, List.countP_singleton, unfound]
    rfl
  case parts =>
    intro all
    have isOk := all execution List.mem_cons_self
    rw [failed] at isOk
    cases isOk

/-- What one compilation adds to the counters. -/
theorem tallies (execution : Execution) : Tallies (·.count execution.events) [execution] := by
  cases looked : execution.found with
  | error error => exact tallies_of_unfound looked
  | ok found => exact tallies_of_found looked

/-- It counts as no query. -/
theorem count_queries (execution : Execution) : Counter.queries.count execution.events = 0 := by
  refine List.countP_eq_zero.mpr fun event mem counted => ?_
  have aside := Compiler.isOfQuery_of_mem_compile _ _ _ event mem
  cases event with
  | queryFinish => cases aside
  | joined move => cases move <;> cases of_decide_eq_true counted
  | _ => cases of_decide_eq_true counted

end Execution

end Criteria
