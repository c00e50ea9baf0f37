import Criteria.Proofs.Compilation.Framing
import Criteria.Proofs.Compilation.Remembering
import Criteria.Proofs.Page.Arithmetic
import Criteria.Repository

/-!
# What a repository hands to its engine

An engine can be made to keep a list of its calls, `Engine.recording`, which changes nothing else.
`Repository.Goes` says all the ways in which a query can go, with the calls that it makes: none when
its request does not compile, and else exactly one, with the specification compiled. Rows are found
and counted by the same specification.
-/

namespace Criteria

/-! ## Calls -/

/-- A call of an engine: the specification that it is handed, and the page asked for unless rows are
only counted. -/
structure Call where
  spec : Specification
  page : Option PageRequest

section

variable {σ ρ ε α : Type}

/-- The engine, which keeps its calls in order beside its state. -/
def Engine.recording (engine : Engine σ ρ ε) : Engine (σ × List Call) ρ ε where
  find spec page state :=
    let (state', answer) := engine.find spec page state.1
    ((state', state.2 ++ [⟨spec, some page⟩]), answer)
  count spec state :=
    let (state', answer) := engine.count spec state.1
    ((state', state.2 ++ [⟨spec, none⟩]), answer)

/-- The repository with an engine that keeps its calls. -/
def Repository.recording (repository : Repository σ ρ ε) : Repository (σ × List Call) ρ ε :=
  ⟨repository.compiler, repository.engine.recording, repository.entity⟩

/-- The same run, with calls kept beside the state of the engine. -/
def QueryRun.keeping (run : QueryRun σ ε α) (calls : List Call) : QueryRun (σ × List Call) ε α :=
  ⟨run.cache, (run.state, calls), run.course⟩

end

/-! ## Layouts that a query leaves behind -/

namespace Compiler

variable {compiler : Compiler} {cache cache' : LayoutCache} {type : FilterType}

/-- A compiler goes by what is remembered for the type, whatever else is. -/
theorem layout_congr (same : cache'.get? type.id = cache.get? type.id) :
    compiler.layout cache' type = compiler.layout cache type := by
  unfold layout LayoutCache.lookup
  split
  · unfold LayoutCache.find
    rw [same]
    cases cache.get? type.id with
    | some layout => rfl
    | none => cases type.model.layout <;> rfl
  · rfl

/-- It goes by the same layout after it has looked that up. -/
theorem layout_lookup (compiler : Compiler) (cache : LayoutCache) (type : FilterType) :
    compiler.layout (cache.lookup compiler.config.rememberLayouts type).1 type =
      compiler.layout cache type := by
  have looks := cache.looks_lookup compiler.config.rememberLayouts type
  unfold layout
  generalize compiler.config.rememberLayouts = remember at looks ⊢
  cases looked : (cache.lookup remember type).2 with
  | error error => rw [looks.cache_of_error looked, looked]
  | ok found =>
    cases remember with
    | false => rw [looks.cache_of_not_remember, looked]
    | true =>
      have kept := looks.get?_of_ok looked
      rw [LayoutCache.lookup, if_pos rfl, LayoutCache.find, kept]
      rfl

/-- A request compiles again with the same end as long as what is remembered for its type is what
was there before, or what the compilation has left. -/
theorem outcome_compile_again {request : Request}
    (same : cache'.get? request.type.id = cache.get? request.type.id ∨
      cache'.get? request.type.id = (compiler.compile cache request).1.get? request.type.id) :
    (compiler.compile cache' request).2.outcome = (compiler.compile cache request).2.outcome := by
  have same_layout : compiler.layout cache' request.type = compiler.layout cache request.type := by
    rcases same with before | left
    · exact layout_congr before
    · exact (layout_congr left).trans (layout_lookup compiler cache request.type)
  rw [outcome_compile, outcome_compile, same_layout]

end Compiler

namespace Repository

variable {σ ρ ε α : Type} {repository : Repository σ ρ ε} {cache : LayoutCache} {state : σ}
  {request : Request} {kind : QueryKind} {page : Option PageRequest} {rows : α → UInt64}

/-! ## Ways in which a query can go -/

section

variable (repository) {execute : Specification → σ → σ × Except ε α}

theorem run_of_refused {error : QueryError}
    (fails : (repository.compiler.compile cache request).2.outcome = .error error) :
    repository.run cache state request kind page rows execute =
      ⟨(repository.compiler.compile cache request).1, state,
        ⟨.queryStart kind repository.entity page ::
          (repository.compiler.compile cache request).2.events, .error (.query error)⟩⟩ := by
  simp only [run, course, fails]
  rfl

theorem run_of_failed {spec : Specification} {error : ε}
    (compiles : (repository.compiler.compile cache request).2.outcome = .ok spec)
    (fails : (execute spec state).2 = .error error) :
    repository.run cache state request kind page rows execute =
      ⟨(repository.compiler.compile cache request).1, (execute spec state).1,
        ⟨.queryStart kind repository.entity page ::
          (repository.compiler.compile cache request).2.events, .error (.engine error)⟩⟩ := by
  rw [← List.append_nil (repository.compiler.compile cache request).2.events]
  simp only [run, course, compiles, mapError_ok, bind, Logged.tell, Logged.lift, fails,
    mapError_error]
  rfl

theorem run_of_answered {spec : Specification} {answer : α}
    (compiles : (repository.compiler.compile cache request).2.outcome = .ok spec)
    (answers : (execute spec state).2 = .ok answer) :
    repository.run cache state request kind page rows execute =
      ⟨(repository.compiler.compile cache request).1, (execute spec state).1,
        ⟨.queryStart kind repository.entity page ::
            (repository.compiler.compile cache request).2.events ++
          [.queryFinish kind repository.entity (rows answer)], .ok answer⟩⟩ := by
  simp only [run, course, compiles, mapError_ok, bind, Logged.tell, Logged.lift, answers]
  rfl

end

/-- The calls that a query makes: one with the specification, if its request compiles. -/
def handed (repository : Repository σ ρ ε) (cache : LayoutCache) (request : Request)
    (page : Option PageRequest) : List Call :=
  (repository.compiler.compile cache request).2.outcome.toOption.toList.map (⟨·, page⟩)

section

variable {execute : Specification → σ → σ × Except ε α}
  {execute' : Specification → σ × List Call → (σ × List Call) × Except ε α} {calls : List Call}
  {run : QueryRun σ ε α}

/-- The ways in which a query can go that compiles a request, with the calls it makes and what it
leaves behind. It tells its start before all that the compilation tells. When that fails, its error
is returned and no call is made. Else there is one call; the query fails as the engine does, and
when the engine answers, it tells its finish last. -/
inductive Goes (repository : Repository σ ρ ε) (cache : LayoutCache) (state : σ)
    (request : Request) (kind : QueryKind) (page : Option PageRequest) (rows : α → UInt64)
    (execute : Specification → σ → σ × Except ε α) : List Call → QueryRun σ ε α → Prop
  | refused {error : QueryError}
      (fails : (repository.compiler.compile cache request).2.outcome = .error error) :
      Goes repository cache state request kind page rows execute []
        ⟨(repository.compiler.compile cache request).1, state,
          ⟨.queryStart kind repository.entity page ::
            (repository.compiler.compile cache request).2.events, .error (.query error)⟩⟩
  | failed {spec : Specification} {error : ε}
      (compiles : (repository.compiler.compile cache request).2.outcome = .ok spec)
      (fails : (execute spec state).2 = .error error) :
      Goes repository cache state request kind page rows execute [⟨spec, page⟩]
        ⟨(repository.compiler.compile cache request).1, (execute spec state).1,
          ⟨.queryStart kind repository.entity page ::
            (repository.compiler.compile cache request).2.events, .error (.engine error)⟩⟩
  | answered {spec : Specification} {answer : α}
      (compiles : (repository.compiler.compile cache request).2.outcome = .ok spec)
      (answers : (execute spec state).2 = .ok answer) :
      Goes repository cache state request kind page rows execute [⟨spec, page⟩]
        ⟨(repository.compiler.compile cache request).1, (execute spec state).1,
          ⟨.queryStart kind repository.entity page ::
              (repository.compiler.compile cache request).2.events ++
            [.queryFinish kind repository.entity (rows answer)], .ok answer⟩⟩

/-- The finish of a query is told exactly when it is answered. -/
theorem Goes.finish_iff
    (goes : repository.Goes cache state request kind page rows execute calls run) :
    (∃ kind entity rows, .queryFinish kind entity rows ∈ run.course.events) ↔
      ∃ answer, run.course.outcome = .ok answer := by
  have silent : ∀ kind entity rows, .queryFinish kind entity rows ∉
      (repository.compiler.compile cache request).2.events := by
    intro kind entity rows mem
    have aside := Compiler.isOfQuery_of_mem_compile _ _ _ _ mem
    cases aside
  cases goes with
  | refused => simp [silent]
  | failed => simp [silent]
  | answered => exact ⟨fun _ => ⟨_, rfl⟩, fun _ => ⟨_, _, _, List.mem_concat_self⟩⟩

/-- Every query goes in one of these ways. -/
theorem goes_run : repository.Goes cache state request kind page rows execute
    (repository.handed cache request page)
    (repository.run cache state request kind page rows execute) := by
  cases compiled : (repository.compiler.compile cache request).2.outcome with
  | error error =>
    rw [handed, compiled, run_of_refused repository compiled]
    exact .refused compiled
  | ok spec =>
    rw [handed, compiled]
    cases ended : (execute spec state).2 with
    | error error =>
      rw [run_of_failed repository compiled ended]
      exact .failed compiled ended
    | ok answer =>
      rw [run_of_answered repository compiled ended]
      exact .answered compiled ended

/-- What is executed keeps its call beside the state. -/
def Records (page : Option PageRequest) (execute : Specification → σ → σ × Except ε α)
    (execute' : Specification → σ × List Call → (σ × List Call) × Except ε α) : Prop :=
  ∀ spec state before, execute' spec (state, before) =
    (((execute spec state).1, before ++ [⟨spec, page⟩]), (execute spec state).2)

/-- A query runs as it does when no calls are kept. -/
theorem run_recording (records : Records page execute execute') (before : List Call) :
    repository.recording.run cache (state, before) request kind page rows execute' =
      (repository.run cache state request kind page rows execute).keeping
        (before ++ repository.handed cache request page) := by
  have answers : (fun spec => (execute' spec (state, before)).2) =
      fun spec => (execute spec state).2 := by
    funext spec
    rw [records]
  simp only [run, recording, answers, handed, QueryRun.keeping]
  cases (repository.compiler.compile cache request).2.outcome with
  | error error => simp [Except.toOption]
  | ok spec => simp [Except.toOption, records spec]

/-- A query goes in one of these ways and makes its calls, which come to those kept before. It tells
its finish exactly when it is answered. -/
structure Makes (repository : Repository σ ρ ε) (cache : LayoutCache) (state : σ)
    (request : Request) (kind : QueryKind) (page : Option PageRequest) (rows : α → UInt64)
    (execute : Specification → σ → σ × Except ε α) (calls : List Call) (run : QueryRun σ ε α)
    (recorded : List Call → QueryRun (σ × List Call) ε α) : Prop where
  goes : repository.Goes cache state request kind page rows execute calls run
  keeps : ∀ before, recorded before = run.keeping (before ++ calls)
  finish_iff : (∃ kind entity rows, .queryFinish kind entity rows ∈ run.course.events) ↔
    ∃ answer, run.course.outcome = .ok answer

theorem makes_run (records : Records page execute execute') :
    repository.Makes cache state request kind page rows execute
      (repository.handed cache request page)
      (repository.run cache state request kind page rows execute)
      fun before =>
        repository.recording.run cache (state, before) request kind page rows execute' where
  goes := goes_run
  keeps := run_recording records
  finish_iff := goes_run.finish_iff

end

/-! ## Queries on a filter -/

/-- The ways to ask for rows. -/
inductive Finding where
  | plain (page : PageRequest)
  | sorted (page : PageRequest) (sort : List SortKey)
  | extended (page : PageRequest) (sort : List SortKey) (extra : List Predicate)
  | numbered (number size : UInt32)

namespace Finding

variable {finding : Finding} {type : FilterType} {values : FilterValue}

def sort : Finding → List SortKey
  | plain _ | numbered _ _ => []
  | sorted _ sort | extended _ sort _ => sort

def extra : Finding → List Predicate
  | plain _ | numbered _ _ | sorted _ _ => []
  | extended _ _ extra => extra

/-- The page that is picked, if it has room. -/
def page? (config : Config) : Finding → Option PageRequest
  | plain page | sorted page _ | extended page _ _ => some page
  | numbered number size => PageRequest.of? number (pageSize config size)

def run (repository : Repository σ ρ ε) (cache : LayoutCache) (state : σ) (type : FilterType)
    (values : FilterValue) : Finding → QueryRun σ ε (Page ρ)
  | plain page => repository.find cache state type values page
  | sorted page sort => repository.findSorted cache state type values page sort
  | extended page sort extra => repository.findWith cache state type values page sort extra
  | numbered number size => repository.findPage cache state type values number size

/-- However rows are asked for, they are found with sort keys and predicates that may be missing. -/
theorem run_of_page {page : PageRequest}
    (picked : finding.page? repository.compiler.config = some page) :
    finding.run repository cache state type values =
      repository.findWith cache state type values page finding.sort finding.extra := by
  cases finding with
  | numbered number size =>
    change PageRequest.of? _ _ = _ at picked
    simp only [run, findPage, picked]
    rfl
  | _ =>
    obtain rfl := Option.some.inj picked
    rfl

/-- Without room on the page nothing is told or done. -/
theorem run_of_no_page (emptied : finding.page? repository.compiler.config = none) :
    finding.run repository cache state type values =
      ⟨cache, state, ⟨[], .error (.query .emptyPage)⟩⟩ := by
  cases finding with
  | numbered number size =>
    change PageRequest.of? _ _ = _ at emptied
    simp only [run, findPage, emptied]
  | _ => cases emptied

end Finding

variable {type : FilterType} {values : FilterValue}

theorem makes_findWith (repository : Repository σ ρ ε) (cache : LayoutCache) (state : σ)
    (type : FilterType) (values : FilterValue) (page : PageRequest) (sort : List SortKey)
    (extra : List Predicate) :
    let asked := page.clamp repository.compiler.config.maxPageSize
    let request : Request := ⟨type, values, repository.entity, extra, sort⟩
    repository.Makes cache state request .find (some asked)
      (fun answer => .ofNat answer.items.length) (repository.engine.find · asked)
      (repository.handed cache request (some asked))
      (repository.findWith cache state type values page sort extra)
      fun before =>
        repository.recording.findWith cache (state, before) type values page sort extra :=
  makes_run fun _ _ _ => rfl

theorem makes_count (repository : Repository σ ρ ε) (cache : LayoutCache) (state : σ)
    (type : FilterType) (values : FilterValue) :
    let request : Request := ⟨type, values, repository.entity, [], []⟩
    repository.Makes cache state request .count none id repository.engine.count
      (repository.handed cache request none) (repository.count cache state type values)
      fun before => repository.recording.count cache (state, before) type values :=
  makes_run fun _ _ _ => rfl

theorem specs_handed (repository : Repository σ ρ ε) (cache : LayoutCache) (request : Request)
    (page : Option PageRequest) : (repository.handed cache request page).map (·.spec) =
      (repository.compiler.compile cache request).2.outcome.toOption.toList := by
  rw [handed, List.map_map]
  exact List.map_id _

/-- Rows are counted by the specification that they are found by. -/
theorem specs_count_eq_specs_find {cache' : LayoutCache} (page : PageRequest) (state' : σ)
    (same : cache'.get? type.id = cache.get? type.id ∨ cache'.get? type.id =
      (repository.find cache state type values page).cache.get? type.id) :
    (repository.recording.count cache' (state', []) type values).state.2.map (·.spec) =
      (repository.recording.find cache (state, []) type values page).state.2.map (·.spec) := by
  let request : Request := ⟨type, values, repository.entity, [], []⟩
  have again : (repository.compiler.compile cache' request).2.outcome =
      (repository.compiler.compile cache request).2.outcome := Compiler.outcome_compile_again same
  have counted := (repository.makes_count cache' state' type values).keeps []
  have found := (repository.makes_findWith cache state type values page [] []).keeps []
  calc (repository.recording.count cache' (state', []) type values).state.2.map (·.spec)
      = (repository.handed cache' request none).map (·.spec) := by rw [counted]; rfl
    _ = (repository.compiler.compile cache' request).2.outcome.toOption.toList :=
      specs_handed _ _ _ _
    _ = (repository.compiler.compile cache request).2.outcome.toOption.toList := by
      rw [again]
    _ = (repository.handed cache request (some _)).map (·.spec) := (specs_handed _ _ _ _).symm
    _ = (repository.recording.find cache (state, []) type values page).state.2.map (·.spec) := by
      rw [find, found]
      rfl

/-- What a repository makes of a filter. Whoever finds rows has a page of the number picked asked
for, with the size cut to the limit; whoever counts them has no page asked for. Either way the
engine is called once with the specification of the filter, the sort keys and the predicates, or not
at all. It is the same specification for rows found and rows counted, now or later, as long as no
other layout has come to be remembered for the type. -/
structure HandsOver (repository : Repository σ ρ ε) (cache : LayoutCache) (state : σ)
    (type : FilterType) (values : FilterValue) : Prop where
  findWith : ∀ page sort extra, ∃ asked : PageRequest, asked.number = page.number ∧
    asked.size.toNat =
      min page.size.toNat (max repository.compiler.config.maxPageSize.toNat 1) ∧
    repository.Makes cache state ⟨type, values, repository.entity, extra, sort⟩ .find (some asked)
      (fun answer => .ofNat answer.items.length) (repository.engine.find · asked)
      (repository.handed cache ⟨type, values, repository.entity, extra, sort⟩ (some asked))
      (repository.findWith cache state type values page sort extra)
      fun before =>
        repository.recording.findWith cache (state, before) type values page sort extra
  finding : ∀ finding : Finding,
    (finding.page? repository.compiler.config = none ∧
      finding.run repository cache state type values =
        ⟨cache, state, ⟨[], .error (.query .emptyPage)⟩⟩ ∧
      ∀ before, finding.run repository.recording cache (state, before) type values =
        (finding.run repository cache state type values).keeping before) ∨
    ∃ page, finding.page? repository.compiler.config = some page ∧
      finding.run repository cache state type values =
        repository.findWith cache state type values page finding.sort finding.extra ∧
      ∀ before, finding.run repository.recording cache (state, before) type values =
        repository.recording.findWith cache (state, before) type values page finding.sort
          finding.extra
  count :
    repository.Makes cache state ⟨type, values, repository.entity, [], []⟩ .count none id
      repository.engine.count
      (repository.handed cache ⟨type, values, repository.entity, [], []⟩ none)
      (repository.count cache state type values)
      fun before => repository.recording.count cache (state, before) type values
  specs_eq : ∀ page cache' state',
    (cache'.get? type.id = cache.get? type.id ∨ cache'.get? type.id =
      (repository.find cache state type values page).cache.get? type.id) →
    (repository.recording.count cache' (state', []) type values).state.2.map (·.spec) =
      (repository.recording.find cache (state, []) type values page).state.2.map (·.spec)

/-- So does every repository, with any engine, from any cache. -/
theorem handsOver (repository : Repository σ ρ ε) (cache : LayoutCache) (state : σ)
    (type : FilterType) (values : FilterValue) :
    repository.HandsOver cache state type values := by
  constructor
  case findWith =>
    intro page sort extra
    exact ⟨page.clamp repository.compiler.config.maxPageSize, rfl, page.toNat_size_clamp _,
      repository.makes_findWith cache state type values page sort extra⟩
  case finding =>
    intro finding
    cases picked : finding.page? repository.compiler.config with
    | none =>
      refine .inl ⟨rfl, Finding.run_of_no_page picked, fun before => ?_⟩
      rw [Finding.run_of_no_page picked]
      exact Finding.run_of_no_page picked
    | some page =>
      exact .inr ⟨page, rfl, Finding.run_of_page picked, fun _ => Finding.run_of_page picked⟩
  case count => exact repository.makes_count cache state type values
  case specs_eq => exact fun page _ state' same => specs_count_eq_specs_find page state' same

end Repository

namespace Staff

/-- An engine that knows one person and is down every second time. It counts its calls. -/
def flaky : Engine Nat String String where
  find _ page calls :=
    (calls + 1, if calls % 2 = 0 then .ok (.ofRequest ["Ann"] page 1) else .error "down")
  count _ calls := (calls + 1, if calls % 2 = 0 then .ok 1 else .error "down")

/-- Persons, with no page size to fall back on. -/
def persons : Repository Nat String String :=
  ⟨⟨registry.schema, { Config.standard with defaultPageSize := 0 }⟩, flaky, "Person"⟩

def colleagues : FilterType := (search "Person" ["name", "boss.name"] []).type

/-- The page asked for is cut to the limit of a thousand rows, and both calls join the boss. -/
example :
    let page : PageRequest := ⟨3, 5000, by decide⟩
    let found := persons.recording.find ∅ (0, []) colleagues (fun _ => .text "x") page
    let counted := persons.recording.count found.cache found.state colleagues fun _ => .text "x"
    counted.state.2.map (fun call => (call.spec.joins.map (·.path), call.page.map (·.size))) =
      [(["boss"], some 1000), (["boss"], none)] := rfl

end Staff

end Criteria
