import Criteria.Proofs.Compilation.Faults
import Criteria.Proofs.Schema.Validation

/-!
# Compilations over a registry that passes validation

All paths of a compilation are resolved from the root entity, and none of them is empty. So when the
registry passes validation and has the root entity, an error of a path is about a field: nothing
that the compilation looks up is missing.
-/

namespace Criteria

/-- A criterion always has a path: its own, or the pieces of its name. -/
theorem Criterion.segments_ne_nil (criterion : Criterion) (separator : Char) :
    criterion.segments separator ≠ [] := by
  unfold segments
  split
  · exact Text.split_ne_nil separator criterion.name
  · assumption

namespace Compiler

variable {compiler : Compiler} {cache : LayoutCache} {request : Request} {error : PathError}

/-- A compilation that ends with the error of a path either does not know the root entity or has
failed to resolve one of the paths of its request, from the root entity. -/
theorem exists_unresolved_of_compile
    (h : (compiler.compile cache request).2.outcome = .error (.path error)) :
    compiler.schema.entity? request.entity = none ∨
      ∃ path ≠ [], compiler.schema.resolve request.entity path = .error error := by
  rw [outcome_compile, bind_eq_error_iff] at h
  rcases h with h | ⟨layout, -, h⟩
  · obtain ⟨_, -, h⟩ := mapError_eq_error_iff.mp h
    cases h
  rw [outcome_assemble, bind_eq_error_iff] at h
  rcases h with h | ⟨overrides, -, h⟩
  · obtain ⟨_, -, h⟩ := mapError_eq_error_iff.mp h
    cases h
  rcases bind_eq_error_iff.mp h with h | ⟨_, -, h⟩
  · obtain ⟨_, at_root, -⟩ := mapError_eq_error_iff.mp h
    exact .inl (requireRoot_eq_error_iff.mp at_root).1
  rcases bind_eq_error_iff.mp h with h | ⟨_, -, h⟩
  · obtain ⟨-, criterion, -, -, -, refused⟩ := mapM_demand_eq_error_iff.mp h
    cases refused with
    | path lost => exact .inr ⟨_, criterion.segments_ne_nil _, lost⟩
  rcases bind_eq_error_iff.mp h with h | ⟨_, -, h⟩
  · obtain ⟨-, key, -, -, -, _, lost, same⟩ := mapM_keyRoute_eq_error_iff.mp h
    cases same
    exact .inr ⟨_, Text.split_ne_nil '.' key.path, lost⟩
  · cases h

/-- Over a registry that passes validation, from a root entity that it has, an error of a path is
about a field, both of a compilation and of a path that is resolved by itself. No entity turns out
to be unknown, and no path to be empty. -/
theorem blamesField_of_validate {registry : Registry} (valid : registry.validate = .ok ())
    {root : String} (known : (registry.entity? root).isSome) :
    (∀ config cache request error, request.entity = root →
      (compile ⟨registry.schema, config⟩ cache request).2.outcome = .error (.path error) →
        error.BlamesField) ∧
    ∀ path ≠ [], ∀ error, registry.schema.resolve root path = .error error →
      error.BlamesField := by
  constructor
  case left =>
    rintro config cache request error rfl fails
    rcases exists_unresolved_of_compile fails with unknown | ⟨path, nonempty, lost⟩
    · rw [Registry.entity?_schema] at unknown
      simp [unknown] at known
    · exact Registry.blamesField_of_resolve valid known nonempty lost
  case right =>
    intro path nonempty error fails
    exact Registry.blamesField_of_resolve valid known nonempty fails

end Compiler

namespace Staff

/-- The head of a department is a manager, who has no salary, also not as a person. -/
theorem blamesField_salary :
    registry.validate = .ok () ∧ (registry.entity? "Person").isSome ∧
      (compiler.compile ∅ (search "Person" ["department.head.salary"] [])).2.outcome =
        .error (.path (.unknownField "Manager" "salary")) ∧
      (PathError.unknownField "Manager" "salary").BlamesField ∧
      registry.schema.resolve "Person" ["boss", "name", "level"] =
        .error (.expectedAssociation "Manager" "name") ∧
      (PathError.expectedAssociation "Manager" "name").BlamesField := by
  have valid : registry.validate = .ok () := rfl
  have known : (registry.entity? "Person").isSome := rfl
  have failed : (compiler.compile ∅ (search "Person" ["department.head.salary"] [])).2.outcome =
      .error (.path (.unknownField "Manager" "salary")) := rfl
  have lost : registry.schema.resolve "Person" ["boss", "name", "level"] =
      .error (.expectedAssociation "Manager" "name") := rfl
  obtain ⟨compiled, resolved⟩ := Compiler.blamesField_of_validate valid known
  exact ⟨valid, known, failed, compiled _ _ _ _ rfl failed, lost,
    resolved _ (List.cons_ne_nil _ _) _ lost⟩

/-- Validation is needed for that: a path may lead to an entity that nobody has registered. -/
example :
    let registry := Registry.empty.insert ⟨"Person", none, [.relation "boss" "Ghost"]⟩
    registry.validate = .error (.unknownTarget "Person" "boss" "Ghost") ∧
      registry.schema.resolve "Person" ["boss", "name"] = .error (.unknownEntity "Ghost") :=
  ⟨rfl, rfl⟩

end Staff

end Criteria
