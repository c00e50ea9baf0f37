import Criteria.Proofs.Compilation.Typing
import Criteria.Proofs.Filter.Layout

/-!
# Runs of compilations that remember layouts

Compilations made one after the other share the layouts remembered, and the model of a filter type
may change between them. `LayoutCache.Looks` says all that one lookup can do. What is remembered at
the end of a run is then the first layout that each type had to offer, `Compilation.firstOffer?`,
and the counts add up. As long as models do not change, nobody can tell whether layouts are
remembered.
-/

namespace Criteria

/-! ## One lookup -/

/-- All that a lookup can do. One that remembers nothing checks the model and leaves the cache
alone. One that remembers finds the layout that is there; else it checks the model, and a layout
that passes is remembered. -/
inductive LayoutCache.Looks (cache : LayoutCache) (type : FilterType) :
    Bool → LayoutCache × Except FilterError LayoutLookup → Prop
  | aside : Looks cache type false (cache, type.model.layout.map fun layout => ⟨layout, false⟩)
  | found {layout : FilterLayout} (kept : cache.get? type.id = some layout) :
      Looks cache type true ({ cache with hits := cache.hits + 1 }, .ok ⟨layout, true⟩)
  | refused {error : FilterError} (unknown : cache.get? type.id = none)
      (fails : type.model.layout = .error error) :
      Looks cache type true (cache, .error error)
  | made {layout : FilterLayout} (unknown : cache.get? type.id = none)
      (passes : type.model.layout = .ok layout) :
      Looks cache type true
        (⟨(type.id, layout) :: cache.layouts, cache.hits, cache.misses + 1⟩, .ok ⟨layout, false⟩)

theorem LayoutCache.looks_lookup (cache : LayoutCache) (remember : Bool) (type : FilterType) :
    cache.Looks type remember (cache.lookup remember type) := by
  cases remember with
  | false => exact .aside
  | true =>
    rw [lookup, if_pos rfl, find]
    cases kept : cache.get? type.id with
    | some layout => exact .found kept
    | none =>
      cases checked : type.model.layout with
      | error error => exact .refused kept checked
      | ok layout => exact .made kept checked

namespace LayoutCache.Looks

variable {cache : LayoutCache} {type : FilterType} {remember : Bool}
  {looked : LayoutCache × Except FilterError LayoutLookup}

/-- A lookup that fails leaves everything as it is. -/
theorem cache_of_error (looks : cache.Looks type remember looked) {error : FilterError}
    (h : looked.2 = .error error) : looked.1 = cache := by
  cases looks with
  | aside => rfl
  | found => cases h
  | refused => rfl
  | made => cases h

/-- A lookup that remembers nothing leaves everything as it is. -/
theorem cache_of_not_remember (looks : cache.Looks type false looked) : looked.1 = cache := by
  cases looks with
  | aside => rfl

/-- A lookup that remembers and succeeds leaves its layout remembered. -/
theorem get?_of_ok (looks : cache.Looks type true looked) {found : LayoutLookup}
    (h : looked.2 = .ok found) : looked.1.get? type.id = some found.layout := by
  cases looks with
  | found kept =>
    obtain rfl := Except.ok.inj h
    exact kept
  | refused => cases h
  | made =>
    obtain rfl := Except.ok.inj h
    exact List.lookup_cons_self

end LayoutCache.Looks

/-! ## Runs -/

/-- A compilation of a run: what it goes by, and what is compiled. -/
structure Compilation where
  compiler : Compiler
  request : Request

namespace Compilation

/-- Whether the compilation remembers layouts. -/
def remembers (compilation : Compilation) : Bool := compilation.compiler.config.rememberLayouts

def type (compilation : Compilation) : FilterType := compilation.request.type

/-- The compilation, by layouts remembered so far. -/
def run (compilation : Compilation) (cache : LayoutCache) :
    LayoutCache × Logged QueryError Specification :=
  compilation.compiler.compile cache compilation.request

/-- The lookup of the layout that it goes by. -/
def lookup (compilation : Compilation) (cache : LayoutCache) :
    LayoutCache × Except FilterError LayoutLookup :=
  cache.lookup compilation.remembers compilation.type

/-- The same compilation with layouts remembered or not. -/
def remembering (compilation : Compilation) (remember : Bool) : Compilation :=
  ⟨⟨compilation.compiler.schema,
    { compilation.compiler.config with rememberLayouts := remember }⟩, compilation.request⟩

/-- The layouts remembered after compilations, one after the other. -/
def cacheAfter (cache : LayoutCache) (compilations : List Compilation) : LayoutCache :=
  compilations.foldl (fun cache compilation => (compilation.run cache).1) cache

/-- The types of the lookups that remember layouts and succeed, in order. -/
def served (cache : LayoutCache) : List Compilation → List TypeId
  | [] => []
  | compilation :: rest =>
    (if compilation.remembers && (compilation.lookup cache).2.isOk then [compilation.type.id]
      else []) ++ served (compilation.run cache).1 rest

/-- The layout that a compilation has to be remembered for a type. -/
def offer? (id : TypeId) (compilation : Compilation) : Option FilterLayout :=
  if compilation.remembers && compilation.type.id = id then
    compilation.type.model.layout.toOption
  else none

/-- The first layout that compilations have to be remembered for a type. -/
def firstOffer? (compilations : List Compilation) (id : TypeId) : Option FilterLayout :=
  compilations.findSome? (offer? id)

variable {compilation : Compilation} {compilations : List Compilation} {cache : LayoutCache}
  {id : TypeId}

/-- Whatever comes after the lookup, the cache is as the lookup leaves it. -/
@[simp] theorem fst_run (compilation : Compilation) (cache : LayoutCache) :
    (compilation.run cache).1 = (compilation.lookup cache).1 := rfl

theorem cacheAfter_concat (cache : LayoutCache) (compilations : List Compilation)
    (last : Compilation) :
    cacheAfter cache (compilations ++ [last]) = (last.run (cacheAfter cache compilations)).1 := by
  rw [cacheAfter, List.foldl_append]
  rfl

theorem served_concat (cache : LayoutCache) (compilations : List Compilation)
    (last : Compilation) :
    served cache (compilations ++ [last]) = served cache compilations ++
      if last.remembers && (last.lookup (cacheAfter cache compilations)).2.isOk then
        [last.type.id]
      else [] := by
  induction compilations generalizing cache with
  | nil => simp [served, cacheAfter]
  | cons first rest ih =>
    rw [List.cons_append, served, ih, ← List.append_assoc]
    rfl

theorem firstOffer?_concat (compilations : List Compilation) (last : Compilation) (id : TypeId) :
    firstOffer? (compilations ++ [last]) id =
      (firstOffer? compilations id).or (last.offer? id) := by
  rw [firstOffer?, List.findSome?_append, List.findSome?_singleton, firstOffer?]

/-! ## What is remembered after a run -/

/-- The cache holds, for each type, the first layout that compilations had to offer; it was missed
once for every layout that it holds, and counts all lookups that it served. -/
structure Kept (compilations : List Compilation) (cache : LayoutCache) : Prop where
  get?_eq : ∀ id, cache.get? id = firstOffer? compilations id
  ids_eq : (cache.layouts.map (·.1)).reverse = (served ∅ compilations).eraseDups
  misses_eq : cache.misses = cache.size
  hits_add_misses : cache.hits + cache.misses = (served ∅ compilations).length

theorem kept_nil : Kept [] ∅ where
  get?_eq _ := rfl
  ids_eq := rfl
  misses_eq := rfl
  hits_add_misses := rfl

theorem offer?_eq_some_iff {layout : FilterLayout} : compilation.offer? id = some layout ↔
    compilation.remembers = true ∧ compilation.type.id = id ∧
      compilation.type.model.layout = .ok layout := by
  unfold offer?
  cases compilation.type.model.layout <;> simp [Except.toOption, and_assoc]

theorem offer?_eq_none_of_not_remembers (off : compilation.remembers = false) (id : TypeId) :
    compilation.offer? id = none := by
  simp [offer?, off]

theorem offer?_eq_none_of_error {error : FilterError}
    (fails : compilation.type.model.layout = .error error) (id : TypeId) :
    compilation.offer? id = none := by
  simp [offer?, fails, Except.toOption]

theorem offer?_eq_none_of_ne (other : id ≠ compilation.type.id) :
    compilation.offer? id = none := by
  simp [offer?, Ne.symm other]

theorem mem_ids_of_get? {layout : FilterLayout} (h : cache.get? id = some layout) :
    id ∈ cache.layouts.map (·.1) :=
  List.mem_map.mpr ⟨_, Dictionary.mem_of_lookup h, rfl⟩

theorem not_mem_ids_of_get? (h : cache.get? id = none) :
    id ∉ cache.layouts.map (·.1) := by
  intro mem
  obtain ⟨entry, held, rfl⟩ := List.mem_map.mp mem
  have apart := List.lookup_eq_none_iff.mp h entry held
  simp at apart

theorem Kept.mem_served_iff (kept : Kept compilations cache) :
    id ∈ served ∅ compilations ↔ id ∈ cache.layouts.map (·.1) := by
  rw [← List.mem_eraseDups, ← kept.ids_eq, List.mem_reverse]

/-- A compilation that neither offers a layout nor is served leaves the cache as it is. -/
theorem Kept.idle (kept : Kept compilations cache) {last : Compilation}
    (offers : ∀ id, last.offer? id = none)
    (serves : served ∅ (compilations ++ [last]) = served ∅ compilations) :
    Kept (compilations ++ [last]) cache where
  get?_eq id := by rw [firstOffer?_concat, offers, Option.or_none, kept.get?_eq]
  ids_eq := by rw [serves, kept.ids_eq]
  misses_eq := kept.misses_eq
  hits_add_misses := by rw [serves, kept.hits_add_misses]

/-- A layout that is found is the first offer for its type, whatever the type has to offer now. -/
theorem Kept.found (kept : Kept compilations cache) {last : Compilation} {layout : FilterLayout}
    (held : cache.get? last.type.id = some layout)
    (serves : served ∅ (compilations ++ [last]) = served ∅ compilations ++ [last.type.id]) :
    Kept (compilations ++ [last]) { cache with hits := cache.hits + 1 } where
  get?_eq id := by
    rw [firstOffer?_concat, ← kept.get?_eq]
    by_cases own : id = last.type.id
    · rw [own, held]
      exact held
    · rw [offer?_eq_none_of_ne own, Option.or_none]
      rfl
  ids_eq := by
    rw [serves, eraseDups_concat_of_mem (kept.mem_served_iff.mpr (mem_ids_of_get? held))]
    exact kept.ids_eq
  misses_eq := kept.misses_eq
  hits_add_misses := by
    rw [serves, List.length_append, ← kept.hits_add_misses]
    exact Nat.add_right_comm _ _ _

/-- A layout that is made is the first offer for its type. -/
theorem Kept.made (kept : Kept compilations cache) {last : Compilation} {layout : FilterLayout}
    (unknown : cache.get? last.type.id = none)
    (offers : last.offer? last.type.id = some layout)
    (serves : served ∅ (compilations ++ [last]) = served ∅ compilations ++ [last.type.id]) :
    Kept (compilations ++ [last])
      ⟨(last.type.id, layout) :: cache.layouts, cache.hits, cache.misses + 1⟩ where
  get?_eq id := by
    rw [firstOffer?_concat, ← kept.get?_eq, LayoutCache.get?, Dictionary.lookup_entry]
    by_cases own : id = last.type.id
    · rw [if_pos own, own, unknown, offers]
      rfl
    · rw [if_neg own, offer?_eq_none_of_ne own, Option.or_none]
      rfl
  ids_eq := by
    have fresh : last.type.id ∉ served ∅ compilations := by
      rw [kept.mem_served_iff]
      exact not_mem_ids_of_get? unknown
    rw [serves, eraseDups_concat_of_not_mem fresh, ← kept.ids_eq, List.map_cons,
      List.reverse_cons]
  misses_eq := congrArg (· + 1) kept.misses_eq
  hits_add_misses := by
    rw [serves, List.length_append, ← kept.hits_add_misses]
    rfl

/-- One more compilation, whatever its lookup does. -/
theorem Kept.concat (kept : Kept compilations cache) {last : Compilation} {remember : Bool}
    {looked : LayoutCache × Except FilterError LayoutLookup}
    (looks : cache.Looks last.type remember looked) (remembers : last.remembers = remember)
    (serves : served ∅ (compilations ++ [last]) = served ∅ compilations ++
      if remember && looked.2.isOk then [last.type.id] else []) :
    Kept (compilations ++ [last]) looked.1 := by
  cases looks with
  | aside =>
    rw [Bool.false_and, if_neg Bool.false_ne_true, List.append_nil] at serves
    exact kept.idle (offer?_eq_none_of_not_remembers remembers) serves
  | found held => exact kept.found held serves
  | refused unknown fails =>
    exact kept.idle (offer?_eq_none_of_error fails) (serves.trans (List.append_nil _))
  | made unknown passes =>
    exact kept.made unknown (offer?_eq_some_iff.mpr ⟨remembers, rfl, passes⟩) serves

/-- What is remembered after any run. -/
theorem kept_cacheAfter (compilations : List Compilation) :
    Kept compilations (cacheAfter ∅ compilations) := by
  induction compilations using List.reverseRecOn with
  | nil => exact kept_nil
  | append_singleton before last ih =>
    rw [cacheAfter_concat, fst_run]
    exact ih.concat (LayoutCache.looks_lookup _ _ _) rfl (served_concat ∅ before last)

/-! ## Results that do not depend on what is remembered -/

/-- Compilations whose type has not changed its model are compiled by the layout of the model. -/
theorem agrees_of_constant (kept : Kept compilations cache) {next : Compilation}
    (constant : ∀ one ∈ compilations, one.type.id = next.type.id →
      one.type.model = next.type.model) : cache.Agrees next.type := by
  intro layout held
  rw [kept.get?_eq] at held
  obtain ⟨one, mem, offered⟩ := List.exists_of_findSome?_eq_some held
  obtain ⟨-, same, passes⟩ := offer?_eq_some_iff.mp offered
  rw [← constant one mem same, passes]

/-- Compiled by the layout of its model, a request comes to the same end with layouts remembered and
without. -/
theorem outcome_remembering (agrees : cache.Agrees compilation.type) (cache' : LayoutCache) :
    ((compilation.remembering true).run cache).2.outcome =
      ((compilation.remembering false).run cache').2.outcome := by
  have on : (compilation.remembering true).compiler.layout cache compilation.type =
      compilation.type.model.layout := Compiler.layout_of_agrees agrees
  have off : (compilation.remembering false).compiler.layout cache' compilation.type =
      compilation.type.model.layout := Compiler.layout_of_not_remember rfl
  rw [run, run, Compiler.outcome_compile, Compiler.outcome_compile]
  simp only [Compiler.outcome_assemble]
  exact congrArg₂ (· >>= ·) (congrArg _ (on.trans off.symm)) rfl

/-- What a compilation makes of the layouts that the compilations before it have left in the cache.
If they had a layout to remember for its type, it finds the first of these, whatever model the type
declares now; if not, it makes the layout of the model. A lookup that remembers nothing or finds no
layout leaves all as it is; one that has found a layout leaves it remembered, whether the
compilation fails or not. As long as the type has not changed its model, the compilation ends as if
nothing were remembered. -/
structure Follows (compilations : List Compilation) (cache : LayoutCache) (next : Compilation) :
    Prop where
  lookup_of_some : next.remembers = true → ∀ layout,
    firstOffer? compilations next.type.id = some layout →
      next.lookup cache = ({ cache with hits := cache.hits + 1 }, .ok ⟨layout, true⟩)
  lookup_of_none : next.remembers = true → firstOffer? compilations next.type.id = none →
    ∀ layout, next.type.model.layout = .ok layout →
      next.lookup cache = (⟨(next.type.id, layout) :: cache.layouts, cache.hits,
        cache.misses + 1⟩, .ok ⟨layout, false⟩)
  run_of_error : ∀ error, (next.lookup cache).2 = .error error → (next.run cache).1 = cache
  run_of_not_remembers : next.remembers = false → (next.run cache).1 = cache
  get?_run : next.remembers = true → ∀ found, (next.lookup cache).2 = .ok found →
    (next.run cache).1.get? next.type.id = some found.layout
  outcome_eq : (∀ one ∈ compilations, one.type.id = next.type.id →
      one.type.model = next.type.model) →
    ∀ cache', ((next.remembering true).run cache).2.outcome =
      ((next.remembering false).run cache').2.outcome

theorem Kept.follows (kept : Kept compilations cache) (next : Compilation) :
    Follows compilations cache next := by
  have looks := cache.looks_lookup next.remembers next.type
  constructor
  case lookup_of_some =>
    intro on layout first
    rw [← kept.get?_eq] at first
    rw [lookup, LayoutCache.lookup, if_pos on, LayoutCache.find, first]
  case lookup_of_none =>
    intro on first layout passes
    rw [← kept.get?_eq] at first
    rw [lookup, LayoutCache.lookup, if_pos on, LayoutCache.find, first, passes]
  case run_of_error =>
    intro error fails
    exact looks.cache_of_error fails
  case run_of_not_remembers =>
    intro off
    rw [off] at looks
    rw [fst_run, lookup, off]
    exact looks.cache_of_not_remember
  case get?_run =>
    intro on found passes
    rw [on] at looks
    rw [lookup, on] at passes
    rw [fst_run, lookup, on]
    exact looks.get?_of_ok passes
  case outcome_eq =>
    intro constant cache'
    exact outcome_remembering (agrees_of_constant kept constant) cache'

/-- The layouts that a run has left in the cache are the first ones: every further compilation goes
by them, each was missed once, and there is one for each type whose lookups were served. -/
structure RemembersFirst (compilations : List Compilation) (cache : LayoutCache) : Prop where
  follows : ∀ next, Follows compilations cache next
  misses_eq_size : cache.misses = cache.size
  size_eq : cache.size = (served ∅ compilations).eraseDups.length
  hits_add_misses : cache.hits + cache.misses = (served ∅ compilations).length

/-- So it is after every run, with layouts remembered or not, of any types whose models may change,
of compilations that succeed or fail. -/
theorem remembersFirst_cacheAfter (compilations : List Compilation) :
    RemembersFirst compilations (cacheAfter ∅ compilations) := by
  have kept := kept_cacheAfter compilations
  constructor
  case follows => exact kept.follows
  case misses_eq_size => exact kept.misses_eq
  case size_eq => rw [← kept.ids_eq, List.length_reverse, List.length_map, LayoutCache.size]
  case hits_add_misses => exact kept.hits_add_misses

end Compilation

end Criteria
