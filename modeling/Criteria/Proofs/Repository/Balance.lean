import Criteria.Proofs.Compilation.Tallying
import Criteria.Proofs.Repository.Calls

/-!
# The balance of a run

Compilations and queries of many repositories, made one after the other, tell their events to one
tally. What one of them adds to each counter is known from how it ended and from the compilation
that it makes; so the counters balance after any run: `Balances`.
-/

namespace Criteria

/-! ## Acts -/

/-- How an act ends, seen from outside: a compilation gives its specification, a query its answer;
the engine of a query fails; or there is an error of the compilation or of the page. -/
inductive Ending where
  | compiled
  | answered
  | failed
  | refused
deriving DecidableEq

namespace Ending

def ofCompilation : Except QueryError Specification → Ending
  | .ok _ => compiled
  | .error _ => refused

def ofQuery {ε α : Type} : Except (QueryFailure ε) α → Ending
  | .ok _ => answered
  | .error (.engine _) => failed
  | .error (.query _) => refused

end Ending

/-- A compilation made directly, or a query of a repository. The engines of all repositories share a
state; their rows and errors may differ. -/
inductive Act (σ : Type) : Type 1 where
  | compile (compilation : Compilation)
  | find {ρ ε : Type} (repository : Repository σ ρ ε) (type : FilterType) (values : FilterValue)
      (finding : Repository.Finding)
  | count {ρ ε : Type} (repository : Repository σ ρ ε) (type : FilterType) (values : FilterValue)

/-- An act done: the compilation it made, if it made one, how it ended, what it told, and what it
left behind. -/
structure Deed (σ : Type) where
  execution? : Option Execution
  ending : Ending
  events : List Event
  cache : LayoutCache
  state : σ

namespace Deed

variable {σ : Type}

/-- A query done. -/
def ofRun {ε α : Type} (execution? : Option Execution) (run : QueryRun σ ε α) : Deed σ :=
  ⟨execution?, .ofQuery run.course.outcome, run.course.events, run.cache, run.state⟩

/-- The compilations made. -/
def executions (deeds : List (Deed σ)) : List Execution := deeds.filterMap (·.execution?)

/-- All that was told. -/
def told (deeds : List (Deed σ)) : List Event := deeds.flatMap (·.events)

end Deed

namespace Act

variable {σ : Type}

/-- The compilation that an act makes; there is none when a page has no room. -/
def compilation? : Act σ → Option Compilation
  | compile compilation => some compilation
  | find repository type values finding =>
    (finding.page? repository.compiler.config).map fun _ =>
      ⟨repository.compiler, ⟨type, values, repository.entity, finding.extra, finding.sort⟩⟩
  | count repository type values =>
    some ⟨repository.compiler, ⟨type, values, repository.entity, [], []⟩⟩

/-- Does an act. -/
def perform (cache : LayoutCache) (state : σ) (act : Act σ) : Deed σ :=
  let execution? := act.compilation?.map fun compilation => ⟨compilation, cache⟩
  match act with
  | compile compilation =>
    let (cache', course) := compilation.run cache
    ⟨execution?, .ofCompilation course.outcome, course.events, cache', state⟩
  | find repository type values finding =>
    .ofRun execution? (finding.run repository cache state type values)
  | count repository type values => .ofRun execution? (repository.count cache state type values)

/-- Does one act after the other. -/
def history (cache : LayoutCache) (state : σ) : List (Act σ) → List (Deed σ)
  | [] => []
  | act :: rest =>
    let deed := act.perform cache state
    deed :: history deed.cache deed.state rest

end Act

/-! ## Balances -/

/-- The numbers on counters are those of a history. Beside what they say of compilations, each query
answered is counted, and compilations are counted more often than queries by those made directly and
those whose specification an engine failed on. -/
structure Balances {σ : Type} (count : Counter → Nat) (deeds : List (Deed σ)) : Prop where
  tallies : Tallies count (Deed.executions deeds)
  queries_eq : count .queries = deeds.countP (·.ending = .answered)
  compiles_eq_queries_add : count .compiles =
    count .queries + (deeds.countP (·.ending = .compiled) + deeds.countP (·.ending = .failed))

namespace Balances

variable {σ ρ ε α : Type} {count count' : Counter → Nat} {deeds deeds' : List (Deed σ)}

theorem nil : Balances (fun _ => 0) ([] : List (Deed σ)) where
  tallies := .nil
  queries_eq := rfl
  compiles_eq_queries_add := rfl

theorem append (first : Balances count deeds) (second : Balances count' deeds') :
    Balances (fun counter => count counter + count' counter) (deeds ++ deeds') where
  tallies := by
    rw [Deed.executions, List.filterMap_append]
    exact first.tallies.append second.tallies
  queries_eq := by rw [List.countP_append, first.queries_eq, second.queries_eq]
  compiles_eq_queries_add := by
    rw [List.countP_append, List.countP_append, first.compiles_eq_queries_add,
      second.compiles_eq_queries_add]
    omega

/-- Without room on its page an act adds nothing. -/
theorem idle (cache : LayoutCache) (state : σ) :
    Balances (·.count []) [(⟨none, .refused, [], cache, state⟩ : Deed σ)] where
  tallies := .nil
  queries_eq := rfl
  compiles_eq_queries_add := rfl

/-- A compilation made directly counts beside no query. -/
theorem of_execution (execution : Execution) (cache : LayoutCache) (state : σ) :
    Balances (·.count execution.events) [(⟨some execution, .ofCompilation execution.outcome,
      execution.events, cache, state⟩ : Deed σ)] := by
  have tallies := execution.tallies
  refine ⟨tallies, ?_, ?_⟩
  · rw [execution.count_queries]
    cases execution.outcome <;> rfl
  · rw [tallies.compiles_eq, execution.count_queries, List.countP_singleton]
    cases execution.outcome <;> rfl

section

variable {repository : Repository σ ρ ε} {cache : LayoutCache} {state : σ} {request : Request}
  {kind : QueryKind} {page : Option PageRequest} {rows : α → UInt64}
  {execute : Specification → σ → σ × Except ε α} {calls : List Call} {run : QueryRun σ ε α}

/-- Around its compilation a query counts only itself, when it is answered. -/
theorem count_of_goes
    (goes : repository.Goes cache state request kind page rows execute calls run)
    (counter : Counter) : counter.count run.course.events =
      counter.count (repository.compiler.compile cache request).2.events +
        if counter = .queries ∧ Ending.ofQuery run.course.outcome = .answered then 1 else 0 := by
  have started : ∀ events : List Event,
      counter.count (.queryStart kind repository.entity page :: events) = counter.count events := by
    intro events
    rw [counter.count_cons, counter.count_singleton, if_neg nofun, Nat.zero_add]
  cases goes with
  | refused =>
    rw [started, if_neg nofun]
    rfl
  | failed =>
    rw [started, if_neg nofun]
    rfl
  | answered =>
    rw [counter.count_append, started, counter.count_singleton]
    simp [Event.counter?, Ending.ofQuery, eq_comm]

/-- Its request compiles exactly when the query is not refused. -/
theorem isOk_of_goes (goes : repository.Goes cache state request kind page rows execute calls run) :
    (repository.compiler.compile cache request).2.outcome.isOk =
      (Ending.ofQuery run.course.outcome != .refused) := by
  cases goes with
  | refused fails => rw [fails]; rfl
  | failed compiles => rw [compiles]; rfl
  | answered compiles => rw [compiles]; rfl

theorem of_goes (goes : repository.Goes cache state request kind page rows execute calls run) :
    Balances (·.count run.course.events)
      [Deed.ofRun (some ⟨⟨repository.compiler, request⟩, cache⟩) run] := by
  let execution : Execution := ⟨⟨repository.compiler, request⟩, cache⟩
  have counts := count_of_goes goes
  have tallies : Tallies (·.count run.course.events) [execution] :=
    execution.tallies.congr fun counter other => by rw [counts, if_neg (other ·.1)]; rfl
  have silent : Counter.queries.count (repository.compiler.compile cache request).2.events = 0 :=
    execution.count_queries
  have made : execution.outcome.isOk = _ := isOk_of_goes goes
  refine ⟨tallies, ?_, ?_⟩
  · rw [counts, silent, List.countP_singleton, Deed.ofRun]
    rcases run.course.outcome with (_ | _) | _ <;> rfl
  · rw [tallies.compiles_eq, counts, silent, List.countP_singleton, List.countP_singleton,
      List.countP_singleton, made, Deed.ofRun]
    rcases run.course.outcome with (_ | _) | _ <;> rfl

end

/-- What an act adds to the counters. -/
theorem perform (act : Act σ) (cache : LayoutCache) (state : σ) :
    Balances (·.count (act.perform cache state).events) [act.perform cache state] := by
  cases act with
  | compile compilation => exact of_execution ⟨compilation, cache⟩ _ state
  | find repository type values finding =>
    cases picked : finding.page? repository.compiler.config with
    | none =>
      have emptied : (Act.find repository type values finding).perform cache state =
          ⟨none, .refused, [], cache, state⟩ := by
        simp only [Act.perform, Act.compilation?, picked, Repository.Finding.run_of_no_page picked]
        rfl
      rw [emptied]
      exact idle cache state
    | some page =>
      simp only [Act.perform, Act.compilation?, picked, Repository.Finding.run_of_page picked]
      exact of_goes Repository.goes_run
  | count repository type values => exact of_goes Repository.goes_run

/-- What a run adds to the counters. -/
theorem history (acts : List (Act σ)) (cache : LayoutCache) (state : σ) :
    Balances (·.count (Deed.told (Act.history cache state acts)))
      (Act.history cache state acts) := by
  induction acts generalizing cache state with
  | nil => exact nil
  | cons act rest ih =>
    have first := perform act cache state
    have all := first.append (ih (act.perform cache state).cache (act.perform cache state).state)
    simp only [← Counter.count_append] at all
    exact all

end Balances

/-- The tally of a run balances, whatever is compiled and whoever answers, as long as no counter has
begun again. -/
theorem balances_tally {σ : Type} (acts : List (Act σ)) (cache : LayoutCache) (state : σ)
    (few : (Deed.told (Act.history cache state acts)).length < 2 ^ 64) :
    Balances
      (fun counter =>
        ((Tally.zero.countAll (Deed.told (Act.history cache state acts))).get counter).toNat)
      (Act.history cache state acts) := by
  simp only [Tally.toNat_get_countAll_zero _ few]
  exact .history acts cache state

namespace Staff

/-- Looks for colleagues by the name of their boss. -/
def shift : List (Act Nat) :=
  let values : FilterValue := fun name => if name = "name" then .null else .text "x"
  [.compile ⟨compiler, search "Person" ["name", "boss.name"] []⟩,
    .find persons colleagues values (.numbered 0 10),
    .find persons colleagues values (.numbered 0 10),
    .find persons colleagues values (.numbered 0 0),
    .count persons colleagues values]

/-- A compilation that fails: there are no visitors. -/
def misdirected : Act Nat := .compile ⟨compiler, search "Visitor" ["name"] []⟩

def report (acts : List (Act Nat)) : Tally :=
  Tally.zero.countAll (Deed.told (Act.history ∅ 0 acts))

/-- The tally balances: first when all compilations succeed, while one query finds the engine down
and one has no room on its page, and then when one more compilation fails. -/
theorem balances_shift :
    (Deed.told (Act.history ∅ 0 shift)).length < 2 ^ 64 ∧
      (∀ execution ∈ Deed.executions (Act.history ∅ 0 shift), execution.outcome.isOk) ∧
      report shift = ⟨4, 0, 5, 4, 0, 3, 3, 1, 2⟩ ∧
      Balances (fun counter => ((report shift).get counter).toNat) (Act.history ∅ 0 shift) ∧
      report (shift ++ [misdirected]) = ⟨4, 1, 5, 4, 0, 3, 4, 1, 2⟩ ∧
      Balances (fun counter => ((report (shift ++ [misdirected])).get counter).toNat)
        (Act.history ∅ 0 (shift ++ [misdirected])) := by
  have few : (Deed.told (Act.history ∅ 0 shift)).length < 2 ^ 64 := by decide
  have few' : (Deed.told (Act.history ∅ 0 (shift ++ [misdirected]))).length < 2 ^ 64 := by decide
  exact ⟨few, by decide, rfl, balances_tally _ _ _ few, rfl, balances_tally _ _ _ few'⟩

end Staff

end Criteria
