import Criteria.Proofs.Compilation.Faults
import Criteria.Proofs.Repository.Calls

/-!
# The size of pages

A request for a page has room for a row, whatever requests it was made of: `PageRequest.Obtained`.
The number and the size of a page may be picked without making a request first. When the
configuration is checked, there is then always a page with room, and its size is the one picked or
the one to fall back on, within the limit: `Repository.FindsPage`.
-/

namespace Criteria

/-! ## Requests made of others -/

namespace PageRequest

/-- A request is made of a number and a size, as the page after that of another, or with the size
cut to a limit. Its size is then the least of the size picked and the limits, where a limit of zero
counts as one. -/
inductive Obtained : Nat → PageRequest → Prop
  | of {number size : UInt32} {request : PageRequest} (made : of? number size = some request) :
      Obtained size.toNat request
  | first {size : UInt32} {request : PageRequest} (made : first? size = some request) :
      Obtained size.toNat request
  | next {least : Nat} {request : PageRequest} (other : Obtained least request) :
      Obtained least request.next
  | clamp {least : Nat} {request : PageRequest} (other : Obtained least request)
      (limit : UInt32) : Obtained (min least (max limit.toNat 1)) (request.clamp limit)

variable {number size : UInt32} {request : PageRequest} {least : Nat}

/-- There is a request for every number and size but a size of zero. -/
theorem of?_eq_some_iff :
    of? number size = some request ↔ size ≠ 0 ∧ request.number = number ∧ request.size = size := by
  unfold of?
  split
  · rename_i room
    constructor
    · intro made
      obtain rfl := Option.some.inj made
      exact ⟨UInt32.pos_iff_ne_zero.mp room, rfl, rfl⟩
    · rintro ⟨-, rfl, rfl⟩
      rfl
  · rename_i roomless
    constructor
    · intro made
      cases made
    · rintro ⟨room, -⟩
      exact absurd (UInt32.pos_iff_ne_zero.mpr room) roomless

theorem of?_eq_none_iff : of? number size = none ↔ size = 0 := by
  rw [Option.eq_none_iff_forall_ne_some]
  constructor
  · intro refused
    by_contra room
    exact refused ⟨number, size, UInt32.pos_iff_ne_zero.mpr room⟩
      (of?_eq_some_iff.mpr ⟨room, rfl, rfl⟩)
  · rintro rfl request made
    exact (of?_eq_some_iff.mp made).1 rfl

theorem Obtained.size_eq (obtained : Obtained least request) : request.size.toNat = least := by
  induction obtained with
  | of made | first made =>
    obtain ⟨-, -, size_eq⟩ := of?_eq_some_iff.mp made
    rw [size_eq]
  | next _ ih => rw [size_next, ih]
  | clamp _ limit ih => rw [toNat_size_clamp, ih]

theorem Obtained.one_le (obtained : Obtained least request) : 1 ≤ least := by
  induction obtained with
  | of made | first made =>
    obtain ⟨room, -, -⟩ := of?_eq_some_iff.mp made
    exact Nat.pos_of_ne_zero fun zero => room (UInt32.toNat_inj.mp zero)
  | next _ ih => exact ih
  | clamp _ limit ih => omega

end PageRequest

/-! ## Pages picked by number and size -/

/-- A compilation has nothing to say against pages. -/
theorem Compiler.outcome_compile_ne_emptyPage (compiler : Compiler) (cache : LayoutCache)
    (request : Request) : (compiler.compile cache request).2.outcome ≠ .error .emptyPage := by
  intro ended
  rw [outcome_compile, bind_eq_error_iff] at ended
  rcases ended with refused | ⟨layout, -, ended⟩
  · obtain ⟨_, -, other⟩ := mapError_eq_error_iff.mp refused
    cases other
  · simp only [outcome_assemble, bind_eq_error_iff, mapError_eq_error_iff,
      mapM_demand_eq_error_iff, mapM_keyRoute_eq_error_iff] at ended
    rcases ended with ⟨_, -, other⟩ | ⟨overrides, -, ⟨_, -, other⟩ | ⟨_, -, demanded⟩⟩
    · cases other
    · cases other
    · rcases demanded with ⟨_, _, _, -, -, other⟩ | ⟨_, -, keyed⟩
      · cases other
      · rcases keyed with ⟨_, _, _, -, -, _, -, other⟩ | ⟨_, -, other⟩
        · cases other
        · cases other

namespace Repository

variable {σ ρ ε α : Type} {repository : Repository σ ρ ε} {cache : LayoutCache} {state : σ}
  {type : FilterType} {values : FilterValue} {number size : UInt32}

/-- So a query with a page to ask for does not fail for want of one. -/
theorem Goes.outcome_ne_emptyPage {request : Request} {kind : QueryKind}
    {page : Option PageRequest} {rows : α → UInt64}
    {execute : Specification → σ → σ × Except ε α} {calls : List Call} {run : QueryRun σ ε α}
    (goes : repository.Goes cache state request kind page rows execute calls run) :
    run.course.outcome ≠ .error (.query .emptyPage) := by
  cases goes with
  | refused fails =>
    intro ended
    obtain rfl := QueryFailure.query.inj (Except.error.inj ended)
    exact repository.compiler.outcome_compile_ne_emptyPage cache request fails
  | failed => nofun
  | answered => nofun

/-- There is no page to ask for when both the size picked and the one to fall back on are zero. -/
theorem of?_pageSize_eq_none_iff (config : Config) (number size : UInt32) :
    PageRequest.of? number (pageSize config size) = none ↔
      size = 0 ∧ config.defaultPageSize = 0 := by
  rw [PageRequest.of?_eq_none_iff, pageSize]
  by_cases unpicked : size = 0
  · rw [if_pos unpicked, and_iff_right unpicked]
  · rw [if_neg unpicked]
    exact iff_of_false unpicked fun zero => unpicked zero.1

/-- A size to fall back on that makes sense is within the limit already. -/
theorem size_clamp_of_check {config : Config} (checked : config.check = .ok ())
    {page : PageRequest} (picked : PageRequest.of? number (pageSize config size) = some page) :
    (page.clamp config.maxPageSize).size =
      if size = 0 then config.defaultPageSize else min size config.maxPageSize := by
  obtain ⟨-, -, room, -, within⟩ := Config.check_eq_ok_iff.mp checked
  obtain ⟨-, -, size_eq⟩ := PageRequest.of?_eq_some_iff.mp picked
  have limit : max config.maxPageSize.toNat 1 = config.maxPageSize.toNat :=
    max_eq_left (UInt32.lt_iff_toNat_lt.mp (UInt32.pos_iff_ne_zero.mpr room))
  apply UInt32.toNat_inj.mp
  rw [page.toNat_size_clamp, size_eq, limit, pageSize]
  split
  · exact min_eq_left (UInt32.le_iff_toNat_le.mp within)
  · exact (toNat_min size config.maxPageSize).symm

theorem size_clamp_le_of_check {config : Config} (checked : config.check = .ok ())
    (page : PageRequest) : (page.clamp config.maxPageSize).size ≤ config.maxPageSize := by
  obtain ⟨-, -, room, -⟩ := Config.check_eq_ok_iff.mp checked
  have limit := UInt32.lt_iff_toNat_lt.mp (UInt32.pos_iff_ne_zero.mpr room)
  rw [UInt32.le_iff_toNat_le, page.toNat_size_clamp]
  exact (min_le_right _ _).trans (max_le le_rfl limit)

theorem findPage_of_none
    (emptied : PageRequest.of? number (pageSize repository.compiler.config size) = none) :
    repository.findPage cache state type values number size =
      ⟨cache, state, ⟨[], .error (.query .emptyPage)⟩⟩ := by
  simp only [findPage, emptied]

theorem findPage_of_some {page : PageRequest}
    (picked : PageRequest.of? number (pageSize repository.compiler.config size) = some page) :
    repository.findPage cache state type values number size =
      repository.findWith cache state type values page [] [] := by
  simp only [findPage, picked]
  rfl

/-- A page that is picked is asked for within the limit, in the one call that is made when the
filter compiles. -/
theorem calls_findPage_of_some {page : PageRequest} (calls : List Call)
    (picked : PageRequest.of? number (pageSize repository.compiler.config size) = some page) :
    (repository.recording.findPage cache (state, calls) type values number size).state.2 =
      calls ++ repository.handed cache ⟨type, values, repository.entity, [], []⟩
        (some (page.clamp repository.compiler.config.maxPageSize)) := by
  have found := repository.makes_findWith cache state type values page [] []
  have same : repository.recording.findPage cache (state, calls) type values number size =
      repository.recording.findWith cache (state, calls) type values page [] [] :=
    findPage_of_some picked
  rw [same, found.keeps calls]
  rfl

theorem outcome_findPage_eq_emptyPage_iff :
    (repository.findPage cache state type values number size).course.outcome =
        .error (.query .emptyPage) ↔
      size = 0 ∧ repository.compiler.config.defaultPageSize = 0 := by
  rw [← of?_pageSize_eq_none_iff _ number]
  cases picked : PageRequest.of? number (pageSize repository.compiler.config size) with
  | none =>
    rw [findPage_of_none picked]
    exact iff_of_true rfl rfl
  | some page =>
    rw [findPage_of_some picked]
    have found := repository.makes_findWith cache state type values page [] []
    exact iff_of_false found.goes.outcome_ne_emptyPage nofun

/-- How a repository finds rows by the number and the size of a page. With a checked configuration
it never fails for want of a page. Whenever it calls its engine, it asks for the page of that
number, with the size cut to the limit, or with the one to fall back on when the size is zero. With
any configuration it fails for want of a page exactly when both sizes are zero; then nothing is
told and nothing called. Requests have room whatever they are made of. -/
structure FindsPage (repository : Repository σ ρ ε) (cache : LayoutCache) (state : σ)
    (type : FilterType) (values : FilterValue) (number size : UInt32) : Prop where
  checked : repository.compiler.config.check = .ok () →
    (repository.findPage cache state type values number size).course.outcome ≠
        .error (.query .emptyPage) ∧
      ∃ asked : PageRequest, asked.number = number ∧
        asked.size = (if size = 0 then repository.compiler.config.defaultPageSize
          else min size repository.compiler.config.maxPageSize) ∧
        1 ≤ asked.size ∧ asked.size ≤ repository.compiler.config.maxPageSize ∧
        ∀ calls, (repository.recording.findPage cache (state, calls) type values number
            size).state.2 =
          calls ++ repository.handed cache ⟨type, values, repository.entity, [], []⟩ (some asked)
  emptyPage_iff :
    (repository.findPage cache state type values number size).course.outcome =
        .error (.query .emptyPage) ↔
      size = 0 ∧ repository.compiler.config.defaultPageSize = 0
  idle : size = 0 ∧ repository.compiler.config.defaultPageSize = 0 →
    (repository.findPage cache state type values number size).course.events = [] ∧
      ∀ calls, (repository.recording.findPage cache (state, calls) type values number
        size).state = (state, calls)
  obtained : ∀ least request, PageRequest.Obtained least request →
    request.size.toNat = least ∧ 1 ≤ least

/-- So does every repository, with any engine and any filter. -/
theorem findsPage (repository : Repository σ ρ ε) (cache : LayoutCache) (state : σ)
    (type : FilterType) (values : FilterValue) (number size : UInt32) :
    repository.FindsPage cache state type values number size := by
  constructor
  case checked =>
    intro checked
    have fallback : repository.compiler.config.defaultPageSize ≠ 0 :=
      (Config.check_eq_ok_iff.mp checked).2.2.2.1
    have fits : ¬ (size = 0 ∧ repository.compiler.config.defaultPageSize = 0) := by
      rintro ⟨-, zero⟩
      exact fallback zero
    have filled : PageRequest.of? number (pageSize repository.compiler.config size) ≠ none := by
      intro emptied
      exact fits ((of?_pageSize_eq_none_iff ..).mp emptied)
    obtain ⟨page, picked⟩ := Option.ne_none_iff_exists'.mp filled
    obtain ⟨-, number_eq, -⟩ := PageRequest.of?_eq_some_iff.mp picked
    refine ⟨?_, page.clamp repository.compiler.config.maxPageSize, number_eq,
      size_clamp_of_check checked picked, ?_, size_clamp_le_of_check checked page, ?_⟩
    · intro ended
      exact fits (outcome_findPage_eq_emptyPage_iff.mp ended)
    · exact UInt32.le_iff_toNat_le.mpr (PageRequest.toNat_size_pos _)
    · intro calls
      exact calls_findPage_of_some calls picked
  case emptyPage_iff => exact outcome_findPage_eq_emptyPage_iff
  case idle =>
    intro zero
    have emptied : PageRequest.of? number (pageSize repository.compiler.config size) = none :=
      (of?_pageSize_eq_none_iff ..).mpr zero
    constructor
    · rw [findPage_of_none emptied]
    · intro calls
      have idle : repository.recording.findPage cache (state, calls) type values number size = _ :=
        findPage_of_none emptied
      rw [idle]
  case obtained =>
    intro least request obtained
    exact ⟨obtained.size_eq, obtained.one_le⟩

end Repository

namespace Staff

/-- Persons, found with the standard settings. -/
def directory : Repository Nat String String := ⟨compiler, flaky, "Person"⟩

/-- The pages that the engine is asked for when rows are found by the number and size of a page. -/
def pagesAsked (number size : UInt32) : List (Option PageRequest) :=
  (directory.recording.findPage ∅ (0, []) colleagues (fun _ => .text "x") number
    size).state.2.map (·.page)

/-- Five thousand rows are cut to a thousand, and none stand for twenty. -/
theorem findsPage_directory : directory.compiler.config.check = .ok () ∧
    (∃ asked : PageRequest, asked.number = 3 ∧ asked.size = 1000 ∧
      pagesAsked 3 5000 = [some asked]) ∧
    ∃ asked : PageRequest, asked.number = 3 ∧ asked.size = 20 ∧ pagesAsked 3 0 = [some asked] := by
  have checked : directory.compiler.config.check = .ok () := rfl
  have finds := directory.findsPage ∅ 0 colleagues (fun _ => .text "x") 3
  refine ⟨checked, ?_, ?_⟩
  · obtain ⟨-, asked, number, size, -, -, calls⟩ := (finds 5000).checked checked
    refine ⟨asked, number, size, ?_⟩
    rw [pagesAsked, calls]
    rfl
  · obtain ⟨-, asked, number, size, -, -, calls⟩ := (finds 0).checked checked
    refine ⟨asked, number, size, ?_⟩
    rw [pagesAsked, calls]
    rfl

end Staff

end Criteria
