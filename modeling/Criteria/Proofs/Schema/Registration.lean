import Criteria.Proofs.Schema.Faults
import Mathlib.Data.List.Dedup

/-!
# What a registry holds

Registration may be refused, and whoever registers entities one after the other may go on all the
same. `Registry.attempt` is one call of it: what becomes of the registry, and the answer. After any
calls the registry holds, of each name, the first entity that has distinct field names: one that is
refused for its fields does not take its name, and one that is held keeps it.
-/

namespace Criteria

/-- The field names of the entity are distinct. -/
def Entity.Distinct (entity : Entity) : Prop := (entity.fields.map (·.name)).Nodup

instance : DecidablePred Entity.Distinct := fun entity =>
  inferInstanceAs (Decidable (entity.fields.map (·.name)).Nodup)

/-- The first of some entities that has a name and distinct field names. -/
def Entity.first? (entities : List Entity) (name : String) : Option Entity :=
  entities.find? fun entity => entity.name = name ∧ entity.Distinct

namespace Registry

variable {registry : Registry} {entity : Entity} {name : String}
  {answer : Except SchemaError Unit}

/-- One call of registration: the registry as it is afterwards, and the answer. -/
def attempt (registry : Registry) (entity : Entity) : Registry × Except SchemaError Unit :=
  match registry.register entity with
  | .ok grown => (grown, .ok ())
  | .error error => (registry, .error error)

/-- Calls one after the other, each on what those before it have left, whatever they answered. -/
def attemptAll (registry : Registry) :
    List Entity → Registry × List (Except SchemaError Unit)
  | [] => (registry, [])
  | entity :: rest =>
    let tried := registry.attempt entity
    let others := tried.1.attemptAll rest
    (others.1, tried.2 :: others.2)

/-- The answer to a call on an entity, given the entity that holds its name: the name is taken; or it
is free, and the field names come to one that was among them before; or they are distinct. -/
inductive Answers (held? : Option Entity) (entity : Entity) : Except SchemaError Unit → Prop
  | taken {held : Entity} (holds : held? = some held) :
      Answers held? entity (.error (.duplicateEntity entity.name))
  | repeated {passed rest : List String} {field : String} (free : held? = none)
      (split : entity.fields.map (·.name) = passed ++ field :: rest) (distinct : passed.Nodup)
      (again : field ∈ passed) :
      Answers held? entity (.error (.duplicateField entity.name field))
  | added (free : held? = none) (distinct : entity.Distinct) : Answers held? entity (.ok ())

/-! ## One call -/

theorem attempt_of_ok {grown : Registry} (h : registry.register entity = .ok grown) :
    registry.attempt entity = (grown, .ok ()) := by
  rw [attempt, h]

theorem attempt_of_error {error : SchemaError} (h : registry.register entity = .error error) :
    registry.attempt entity = (registry, .error error) := by
  rw [attempt, h]

/-- What a call can do: the name is taken, or a field name is repeated, and the registry stays; or
the entity is added. -/
theorem attempt_cases (registry : Registry) (entity : Entity) :
    (∃ held, registry.entity? entity.name = some held ∧
      registry.attempt entity = (registry, .error (.duplicateEntity entity.name))) ∨
    (∃ field, registry.entity? entity.name = none ∧
      Names.repeated? (entity.fields.map (·.name)) = some field ∧
      registry.attempt entity = (registry, .error (.duplicateField entity.name field))) ∨
    (registry.entity? entity.name = none ∧ entity.Distinct ∧
      registry.attempt entity = (registry.insert entity, .ok ())) := by
  cases found : registry.entity? entity.name with
  | some held => exact .inl ⟨held, rfl, attempt_of_error (register_of_taken found)⟩
  | none =>
    cases repeated : Names.repeated? (entity.fields.map (·.name)) with
    | some field =>
      exact .inr (.inl ⟨field, rfl, rfl, attempt_of_error (register_of_repeated found repeated)⟩)
    | none =>
      have distinct : entity.Distinct := Names.repeated?_eq_none_iff.mp repeated
      exact .inr (.inr ⟨rfl, distinct, attempt_of_ok (register_of_nodup found distinct)⟩)

theorem attempt_snd_eq_iff : (registry.attempt entity).2 = answer ↔
    Answers (registry.entity? entity.name) entity answer := by
  constructor
  · rintro rfl
    rcases registry.attempt_cases entity with
      ⟨held, taken, eq⟩ | ⟨field, free, repeated, eq⟩ | ⟨free, distinct, eq⟩
    · rw [eq]
      exact .taken taken
    · rw [eq]
      obtain ⟨passed, rest, split, distinct, again⟩ := Names.repeated?_eq_some_iff.mp repeated
      exact .repeated free split distinct again
    · rw [eq]
      exact .added free distinct
  · intro answers
    cases answers with
    | taken holds => rw [attempt_of_error (register_of_taken holds)]
    | repeated free split distinct again =>
      have repeated := Names.repeated?_eq_some_iff.mpr ⟨_, _, split, distinct, again⟩
      rw [attempt_of_error (register_of_repeated free repeated)]
    | added free distinct => rw [attempt_of_ok (register_of_nodup free distinct)]

/-- A call that fails leaves the registry as it is. -/
theorem attempt_fst_of_error {error : SchemaError}
    (h : (registry.attempt entity).2 = .error error) : (registry.attempt entity).1 = registry := by
  rcases registry.attempt_cases entity with ⟨_, _, eq⟩ | ⟨_, _, _, eq⟩ | ⟨_, _, eq⟩
  · rw [eq]
  · rw [eq]
  · rw [eq] at h
    cases h

/-- A call keeps what is held, and where nothing is, the entity comes in if its field names are
distinct. -/
theorem entity?_attempt (registry : Registry) (entity : Entity) (name : String) :
    (registry.attempt entity).1.entity? name =
      (registry.entity? name).or (Entity.first? [entity] name) := by
  rcases registry.attempt_cases entity with
    ⟨held, taken, eq⟩ | ⟨field, -, repeated, eq⟩ | ⟨free, distinct, eq⟩
  · rw [eq]
    by_cases own : entity.name = name
    · rw [← own, taken, Option.some_or]
    · simp [Entity.first?, own]
  · have indistinct : ¬ entity.Distinct := by
      intro distinct
      cases repeated.symm.trans (Names.repeated?_eq_none_iff.mpr distinct)
    rw [eq]
    simp [Entity.first?, indistinct]
  · rw [eq, entity?_insert]
    by_cases own : name = entity.name
    · subst own
      simp [Entity.first?, free, distinct]
    · simp [Entity.first?, own, Ne.symm own]

/-! ## All calls -/

theorem entity?_attemptAll (registry : Registry) (entities : List Entity) (name : String) :
    (registry.attemptAll entities).1.entity? name =
      (registry.entity? name).or (Entity.first? entities name) := by
  induction entities generalizing registry with
  | nil => exact (Option.or_none ..).symm
  | cons entity rest ih =>
    have first : Entity.first? ([entity] ++ rest) name =
        (Entity.first? [entity] name).or (Entity.first? rest name) := List.find?_append
    rw [attemptAll, ih, entity?_attempt, Option.or_assoc, ← first, List.singleton_append]

/-- Calls on the empty registry leave the first entity of each name that has distinct field
names. -/
theorem entity?_attemptAll_empty (entities : List Entity) (name : String) :
    ((∅ : Registry).attemptAll entities).1.entity? name = Entity.first? entities name := by
  rw [entity?_attemptAll]
  rfl

theorem attemptAll_append (registry : Registry) (entities more : List Entity) :
    registry.attemptAll (entities ++ more) =
      let first := registry.attemptAll entities
      let second := first.1.attemptAll more
      (second.1, first.2 ++ second.2) := by
  induction entities generalizing registry with
  | nil => rfl
  | cons entity rest ih =>
    rw [List.cons_append, attemptAll, ih]
    rfl

@[simp] theorem length_attemptAll (registry : Registry) (entities : List Entity) :
    (registry.attemptAll entities).2.length = entities.length := by
  induction entities generalizing registry with
  | nil => rfl
  | cons entity rest ih => rw [attemptAll, List.length_cons, ih, List.length_cons]

/-- The answer to a call is that of the registry which the calls before it have left. -/
theorem getElem?_attemptAll (registry : Registry) (before after : List Entity) (entity : Entity) :
    (registry.attemptAll (before ++ entity :: after)).2[before.length]? =
      some ((registry.attemptAll before).1.attempt entity).2 := by
  simp [attemptAll_append, attemptAll]

/-- Without a call that fails, the others go as they went, and the registry ends up the same. -/
theorem attemptAll_of_error {before after : List Entity} {error : SchemaError}
    (h : ((registry.attemptAll before).1.attempt entity).2 = .error error) :
    registry.attemptAll (before ++ after) =
      let run := registry.attemptAll (before ++ entity :: after)
      (run.1, run.2.eraseIdx before.length) := by
  simp [attemptAll_append, attemptAll, attempt_fst_of_error h, List.eraseIdx_append_of_length_le]

/-! ## What is held -/

/-- What becomes of a registry without entities after calls on some: it holds the first entity of
each name that has distinct field names, lists these by name, and counts them. Each call is answered
by what is held so far, and one that fails might as well not have been made. -/
structure HoldsFirst (entities : List Entity) (registry : Registry)
    (answers : List (Except SchemaError Unit)) : Prop where
  entity?_eq : ∀ name, registry.entity? name = Entity.first? entities name
  mem_entities : ∀ entity,
    entity ∈ registry.entities ↔ Entity.first? entities entity.name = some entity
  sorted : registry.entities.Pairwise fun entity other => entity.name < other.name
  size_eq : registry.size = registry.entities.length
  length_eq : registry.entities.length =
    ((entities.filter (·.Distinct)).map (·.name)).dedup.length
  answered : ∀ {before after : List Entity} {entity : Entity} {answer : Except SchemaError Unit},
    entities = before ++ entity :: after →
      (answers[before.length]? = some answer ↔
        Answers (Entity.first? before entity.name) entity answer)
  unchanged : ∀ {before after : List Entity} {entity : Entity} {error : SchemaError},
    entities = before ++ entity :: after → answers[before.length]? = some (.error error) →
      (∅ : Registry).attemptAll (before ++ after) = (registry, answers.eraseIdx before.length)

/-- The names held are those of the entities with distinct field names, each once. -/
theorem names_perm (entities : List Entity) :
    (((∅ : Registry).attemptAll entities).1.entities.map (·.name)).Perm
      ((entities.filter (·.Distinct)).map (·.name)).dedup := by
  have nodup : (((∅ : Registry).attemptAll entities).1.entities.map (·.name)).Nodup := by
    apply List.pairwise_map.mpr
    exact (pairwise_entities _).imp fun lt => String.ne_of_lt lt
  refine (List.perm_ext_iff_of_nodup nodup (List.nodup_dedup _)).mpr ?_
  intro name
  rw [List.mem_dedup]
  constructor
  · intro mem
    obtain ⟨entity, listed, rfl⟩ := List.mem_map.mp mem
    rw [mem_entities_iff, entity?_attemptAll_empty] at listed
    have distinct := List.find?_some listed
    have member := List.mem_of_find?_eq_some listed
    exact List.mem_map.mpr ⟨entity, List.mem_filter.mpr ⟨member, by simpa using distinct⟩, rfl⟩
  · intro mem
    obtain ⟨entity, listed, rfl⟩ := List.mem_map.mp mem
    obtain ⟨listed, distinct⟩ := List.mem_filter.mp listed
    have found : (Entity.first? entities entity.name).isSome := by
      rw [Entity.first?, List.find?_isSome]
      exact ⟨entity, listed, by simpa using distinct⟩
    obtain ⟨first, found⟩ := Option.isSome_iff_exists.mp found
    rw [← entity?_attemptAll_empty] at found
    exact List.mem_map.mpr ⟨first, mem_entities_of_entity? found, name_of_entity? found⟩

/-- After any calls on the empty registry it holds the first entity with distinct field names of
each name. -/
theorem holdsFirst_attemptAll (entities : List Entity) :
    HoldsFirst entities ((∅ : Registry).attemptAll entities).1
      ((∅ : Registry).attemptAll entities).2 := by
  constructor
  case entity?_eq => exact entity?_attemptAll_empty entities
  case mem_entities =>
    intro entity
    rw [mem_entities_iff, entity?_attemptAll_empty]
  case sorted => exact pairwise_entities _
  case size_eq => exact (List.length_map ..).symm
  case length_eq =>
    rw [← (names_perm entities).length_eq, List.length_map]
  case answered =>
    rintro before after entity answer rfl
    rw [getElem?_attemptAll, Option.some_inj, attempt_snd_eq_iff, entity?_attemptAll_empty]
  case unchanged =>
    rintro before after entity error rfl failed
    rw [getElem?_attemptAll] at failed
    exact attemptAll_of_error (Option.some.inj failed)

/-- A person with two names is refused, and leaves the name to the next one. -/
example :
    let twice : Entity := ⟨"Person", none, [.column "name" .text, .column "name" .int]⟩
    let once : Entity := ⟨"Person", none, [.column "name" .text]⟩
    ((∅ : Registry).attemptAll [twice, once, twice]).2 =
      [.error (.duplicateField "Person" "name"), .ok (), .error (.duplicateEntity "Person")] := rfl

end Registry

end Criteria
