import Criteria.Proofs.Schema.Astray
import Criteria.Schema.Registry

/-!
# Schemas that grow

A schema is `Within` another that knows all its entities and follows parents at least as far. What
one finds the other finds first as well, declared by the same entity, since lineages only go on at
their end. So a path that resolves keeps its route, and a path that goes astray keeps its error,
unless that says that an entity or a field is missing.
-/

namespace Criteria

/-- Whether an error says that an entity or a field is missing. -/
def PathError.isMissing : PathError → Bool
  | unknownEntity _ | unknownField _ _ => true
  | _ => false

namespace Schema

/-- The other schema knows the same entity wherever this one knows one, and follows as many
parents. -/
structure Within (schema schema' : Schema) : Prop where
  knows : ∀ {name : String} {entity : Entity},
    schema.entity? name = some entity → schema'.entity? name = some entity
  reach_le : schema.reach ≤ schema'.reach

variable {schema schema' : Schema} {entity next : Entity} {name : String} {error : PathError}

namespace Within

/-! ## What is found -/

/-- Parents that are met are met first with more of them to follow. -/
theorem ancestors_isPrefix (within : schema.Within schema') {steps steps' : Nat}
    (le : steps ≤ steps') (passed : List String) (parent : Option String) :
    schema.ancestors steps passed parent <+: schema'.ancestors steps' passed parent := by
  induction steps generalizing steps' passed parent with
  | zero => exact List.nil_prefix
  | succ steps ih =>
    obtain ⟨steps', rfl⟩ := Nat.exists_eq_add_one.mpr (Nat.zero_lt_of_lt le)
    rw [ancestors]
    cases known : parent.bind schema.entity? with
    | none => exact List.nil_prefix
    | some above =>
      obtain ⟨parentName, declared, known⟩ := Option.bind_eq_some_iff.mp known
      have known' : parent.bind schema'.entity? = some above :=
        Option.bind_eq_some_iff.mpr ⟨parentName, declared, within.knows known⟩
      rw [ancestors, known']
      dsimp only
      split
      · exact List.nil_prefix
      · exact List.cons_prefix_cons.mpr
          ⟨rfl, ih (Nat.le_of_succ_le_succ le) (above.name :: passed) above.parent⟩

theorem lineage_isPrefix (within : schema.Within schema') (entity : Entity) :
    schema.lineage entity <+: schema'.lineage entity :=
  List.cons_prefix_cons.mpr ⟨rfl, within.ancestors_isPrefix within.reach_le _ _⟩

theorem find?_eq_some (within : schema.Within schema') {found : Found}
    (finds : schema.find? entity name = some found) : schema'.find? entity name = some found :=
  (within.lineage_isPrefix entity).findSome?_eq_some finds

/-! ## Paths that resolve -/

theorem crosses (within : schema.Within schema') {hop : Hop}
    (h : schema.Crosses entity hop next) : schema'.Crosses entity hop next := by
  cases h with
  | intro finds targets known =>
    exact .intro (within.find?_eq_some finds) targets (within.knows known)

theorem leads (within : schema.Within schema') {hops : List Hop}
    (h : schema.Leads entity hops next) : schema'.Leads entity hops next := by
  induction h with
  | here entity => exact .here entity
  | across crosses _ ih => exact .across (within.crosses crosses) ih

theorem arrives (within : schema.Within schema') {route : Route}
    (h : schema.Arrives entity route) : schema'.Arrives entity route := by
  obtain ⟨last, found, leads, finds, column⟩ := h
  exact ⟨last, found, within.leads leads, within.find?_eq_some finds, column⟩

/-- A path that resolves keeps its route. -/
theorem resolve_eq_ok (within : schema.Within schema') {root : String} {path : List String}
    {route : Route} (h : schema.resolve root path = .ok route) :
    schema'.resolve root path = .ok route := by
  obtain ⟨spelled, entity, known, arrives⟩ := resolve_eq_ok_iff.mp h
  exact resolve_eq_ok_iff.mpr ⟨spelled, entity, within.knows known, within.arrives arrives⟩

/-! ## Paths that go astray -/

theorem blocks (within : schema.Within schema') (h : schema.Blocks entity name error)
    (present : error.isMissing = false) : schema'.Blocks entity name error := by
  cases h with
  | absent => cases present
  | column finds plain => exact .column (within.find?_eq_some finds) plain
  | untraversable finds notPlain targetless =>
    exact .untraversable (within.find?_eq_some finds) notPlain targetless
  | dangling => cases present

theorem lacks (within : schema.Within schema') (h : schema.Lacks entity name error)
    (present : error.isMissing = false) : schema'.Lacks entity name error := by
  cases h with
  | absent => cases present
  | association finds associates => exact .association (within.find?_eq_some finds) associates

theorem strays (within : schema.Within schema') {rest : List String}
    (h : schema.Strays entity name rest error) (present : error.isMissing = false) :
    schema'.Strays entity name rest error := by
  induction h with
  | hop blocks => exact .hop (within.blocks blocks present)
  | terminal lacks => exact .terminal (within.lacks lacks present)
  | across crosses _ ih => exact .across (within.crosses crosses) (ih present)

/-- A path that goes astray keeps its error, unless something is missing. -/
theorem resolve_eq_error (within : schema.Within schema') {root : String} {path : List String}
    (h : schema.resolve root path = .error error) (present : error.isMissing = false) :
    schema'.resolve root path = .error error := by
  rw [resolve_eq_error_iff] at h ⊢
  cases h with
  | empty => exact .empty
  | rootless => cases present
  | astray known strays => exact .astray (within.knows known) (within.strays strays present)

end Within

end Schema

/-! ## Registration -/

theorem Dictionary.length_le_length_place {α : Type} (key : String) (value : α)
    (entries : List (String × α)) : entries.length ≤ (place key value entries).length := by
  induction entries with
  | nil => exact Nat.zero_le _
  | cons head rest ih =>
    unfold place
    split
    · exact Nat.le_succ _
    · split
      · exact Nat.le_refl _
      · exact Nat.succ_le_succ ih

/-- One more entity makes a larger schema. -/
theorem Registry.within_of_register {registry registry' : Registry} {entity : Entity}
    (registers : registry.register entity = .ok registry') :
    registry.schema.Within registry'.schema := by
  obtain ⟨free, -, rfl⟩ := register_eq_ok_iff.mp registers
  constructor
  case knows =>
    intro name known finds
    have other : name ≠ entity.name := by
      rintro rfl
      cases free.symm.trans finds
    exact (entity?_insert ..).trans ((if_neg other).trans finds)
  case reach_le => exact Dictionary.length_le_length_place _ _ _

end Criteria
