import Criteria.Proofs.Compilation.Faults
import Criteria.Proofs.Schema.Growth

/-!
# Compilations over a schema that grows

When an entity is registered, a request that compiles keeps its specification, joins and their
numbers included, and one that does not keeps its error, unless the error says that an entity or a
field is missing. Parts of the request that are sound stay so, with the same routes and comparisons,
and the first fault stays the first.
-/

namespace Criteria

/-- Whether an error says that an entity or a field is missing. -/
def QueryError.isMissing : QueryError → Bool
  | path error => error.isMissing
  | _ => false

namespace Compiler

variable {schema schema' : Schema} {config : Config} {cache cache' : LayoutCache}
  {request : Request} {root : String} {overrides : Overrides} {criterion : Criterion}
  {layout : FilterLayout} {error : QueryError}

/-! ## Parts by themselves -/

theorem demand_of_within (within : schema.Within schema') {demand : Route × Comparison}
    (h : Compiler.demand ⟨schema, config⟩ root overrides criterion = .ok demand) :
    Compiler.demand ⟨schema', config⟩ root overrides criterion = .ok demand := by
  obtain ⟨route, resolved, compared⟩ := bind_eq_ok_iff.mp h
  have resolved' := within.resolve_eq_ok (mapError_eq_ok_iff.mp resolved)
  exact bind_eq_ok_iff.mpr ⟨route, mapError_eq_ok_iff.mpr resolved', compared⟩

theorem keyRoute_of_within (within : schema.Within schema') {key : SortKey} {route : Route}
    (h : Compiler.keyRoute ⟨schema, config⟩ root key = .ok route) :
    Compiler.keyRoute ⟨schema', config⟩ root key = .ok route :=
  mapError_eq_ok_iff.mpr (within.resolve_eq_ok (mapError_eq_ok_iff.mp h))

theorem Accepts.of_within (within : schema.Within schema')
    (accepts : Accepts ⟨schema, config⟩ root overrides criterion) :
    Accepts ⟨schema', config⟩ root overrides criterion := by
  obtain ⟨route, comparison, resolved, made⟩ := accepts
  exact ⟨route, comparison, within.resolve_eq_ok resolved, made⟩

theorem Refuses.of_within (within : schema.Within schema')
    (refuses : Refuses ⟨schema, config⟩ root overrides criterion error)
    (present : error.isMissing = false) :
    Refuses ⟨schema', config⟩ root overrides criterion error := by
  cases refuses with
  | path lost => exact .path (within.resolve_eq_error lost present)
  | operator resolved unfit => exact .operator (within.resolve_eq_ok resolved) unfit

theorem Opens.of_within (within : schema.Within schema')
    (opens : Opens ⟨schema, config⟩ request layout overrides) :
    Opens ⟨schema', config⟩ request layout overrides where
  checked := opens.checked
  carried := opens.carried
  known := by
    obtain ⟨entity, known⟩ := Option.isSome_iff_exists.mp opens.known
    exact Option.isSome_of_mem (within.knows known)

/-! ## Whole requests -/

/-- Parts that end well over the smaller schema do so over the larger one. -/
def Parts.grow (within : schema.Within schema') (parts : Parts ⟨schema, config⟩ cache request)
    (found : Compiler.layout ⟨schema', config⟩ cache' request.type = .ok parts.layout) :
    Parts ⟨schema', config⟩ cache' request where
  layout := parts.layout
  overrides := parts.overrides
  demands := parts.demands
  ways := parts.ways
  layout_eq := found
  overrides_eq := parts.overrides_eq
  root_known := by
    obtain ⟨entity, known⟩ := Option.isSome_iff_exists.mp parts.root_known
    exact Option.isSome_of_mem (within.knows known)
  demands_eq := mapM_eq_ok_iff.mpr
    (parts.forall₂_demands.imp fun _ _ asked => demand_of_within within asked)
  ways_eq := mapM_eq_ok_iff.mpr
    ((mapM_eq_ok_iff.mp parts.ways_eq).imp fun _ _ keyed => keyRoute_of_within within keyed)

/-- The first fault stays the first, unless it is that something is missing. -/
theorem FirstFault.of_within (within : schema.Within schema')
    (fault : FirstFault ⟨schema, config⟩ request error) (present : error.isMissing = false) :
    FirstFault ⟨schema', config⟩ request error := by
  cases fault with
  | model refused => exact .model refused
  | carrier checked refused => exact .carrier checked refused
  | root => cases present
  | criterion opens split accepted refused =>
    exact .criterion (opens.of_within within) split
      (fun earlier mem => (accepted earlier mem).of_within within)
      (refused.of_within within present)
  | sort opens accepted split resolved lost =>
    refine .sort (opens.of_within within)
      (fun criterion mem => (accepted criterion mem).of_within within) split ?_
      (within.resolve_eq_error lost present)
    intro earlier mem
    obtain ⟨route, resolved⟩ := resolved earlier mem
    exact ⟨route, within.resolve_eq_ok resolved⟩

/-- When one more entity is registered, a request that compiles without layouts remembered still
compiles to the same specification, and one that does not still ends with the same error, unless
that says that an entity or a field is missing. -/
theorem compile_of_register {registry registry' : Registry} {entity : Entity}
    (registers : registry.register entity = .ok registry')
    (off : config.rememberLayouts = false) :
    (∀ spec, (compile ⟨registry.schema, config⟩ cache request).2.outcome = .ok spec →
      (compile ⟨registry'.schema, config⟩ cache' request).2.outcome = .ok spec) ∧
    ∀ error, (compile ⟨registry.schema, config⟩ cache request).2.outcome = .error error →
      error.isMissing = false →
        (compile ⟨registry'.schema, config⟩ cache' request).2.outcome = .error error := by
  have within := Registry.within_of_register registers
  constructor
  case left =>
    intro spec compiled
    obtain ⟨parts, rfl⟩ := compile_eq_ok_iff.mp compiled
    have found : Compiler.layout ⟨registry'.schema, config⟩ cache' request.type =
        .ok parts.layout := by
      rw [layout_of_not_remember off, ← parts.layout_eq, layout_of_not_remember off]
    exact compile_eq_ok_iff.mpr ⟨parts.grow within found, rfl⟩
  case right =>
    intro error failed present
    have fault := (eq_error_iff_firstFault off).mp failed
    exact (eq_error_iff_firstFault off).mpr (fault.of_within within present)

end Compiler

namespace Staff

/-- Managers, who assist each other, before persons are registered whom they extend. -/
def managers : Registry :=
  Registry.empty.insert
    ⟨"Manager", some "Person", [.column "level" .int, .relation "assistant" "Manager"]⟩

def person : Entity := ⟨"Person", none, [.column "name" .text]⟩

/-- A search of managers over a registry, with no layouts remembered. -/
def outcomeOver (registry : Registry) (paths : List String) : Except QueryError Specification :=
  (Compiler.compile ⟨registry.schema, { Config.standard with rememberLayouts := false }⟩ ∅
    (search "Manager" paths [])).2.outcome

/-- Once persons are there, managers have names. What was found of them is found as before, and a
level still leads nowhere. -/
theorem compile_managers : ∃ spec,
    managers.register person = .ok (managers.insert person) ∧
      outcomeOver managers ["assistant.level"] = .ok spec ∧
      outcomeOver (managers.insert person) ["assistant.level"] = .ok spec ∧
      outcomeOver managers ["level.name"] =
        .error (.path (.expectedAssociation "Manager" "level")) ∧
      outcomeOver (managers.insert person) ["level.name"] =
        .error (.path (.expectedAssociation "Manager" "level")) ∧
      outcomeOver managers ["name"] = .error (.path (.unknownField "Manager" "name")) ∧
      (outcomeOver (managers.insert person) ["name"]).isOk := by
  have registers : managers.register person = .ok (managers.insert person) := rfl
  have compiled : outcomeOver managers ["assistant.level"] = .ok _ := rfl
  have failed : outcomeOver managers ["level.name"] =
      .error (.path (.expectedAssociation "Manager" "level")) := rfl
  exact ⟨_, registers, compiled, (Compiler.compile_of_register registers rfl).1 _ compiled, failed,
    (Compiler.compile_of_register registers rfl).2 _ failed rfl, rfl, rfl⟩

end Staff

end Criteria
