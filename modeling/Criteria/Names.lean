/-!
# Repeated names

Fields are told apart by name, so a list of fields is well formed when no name occurs twice. The
name to complain about is the one at which this first fails.
-/

namespace Criteria.Names

/-- The first name that was seen or occurs before in the list. -/
def repeatedAfter? (seen : List String) : List String → Option String
  | [] => none
  | name :: rest => if name ∈ seen then some name else repeatedAfter? (name :: seen) rest

/-- The first name that occurs before in the list. -/
def repeated? (names : List String) : Option String := repeatedAfter? [] names

theorem repeatedAfter?_eq_none_iff {seen names : List String} :
    repeatedAfter? seen names = none ↔ names.Nodup ∧ ∀ name ∈ names, name ∉ seen := by
  induction names generalizing seen with
  | nil => simp [repeatedAfter?]
  | cons head rest ih =>
    unfold repeatedAfter?
    split
    · simp_all
    · rw [ih, List.nodup_cons]
      constructor
      · rintro ⟨nodup, fresh⟩
        refine ⟨⟨fun mem => fresh head mem List.mem_cons_self, nodup⟩, fun name mem => ?_⟩
        rcases List.mem_cons.mp mem with rfl | mem
        · assumption
        · exact fun old => fresh name mem (List.mem_cons_of_mem _ old)
      · rintro ⟨⟨new, nodup⟩, fresh⟩
        refine ⟨nodup, fun name mem old => ?_⟩
        rcases List.mem_cons.mp old with rfl | old
        · exact new mem
        · exact fresh name (List.mem_cons_of_mem _ mem) old

/-- No name is repeated exactly when the names are distinct. -/
theorem repeated?_eq_none_iff {names : List String} : repeated? names = none ↔ names.Nodup := by
  simp [repeated?, repeatedAfter?_eq_none_iff]

/-- What is repeated in a list that goes on is repeated in its first part or, after that, in the
rest. -/
theorem repeatedAfter?_append {seen before after : List String} :
    repeatedAfter? seen (before ++ after) =
      (repeatedAfter? seen before).or (repeatedAfter? (before.reverse ++ seen) after) := by
  induction before generalizing seen with
  | nil => rfl
  | cons head rest ih =>
    simp only [List.cons_append, repeatedAfter?, List.reverse_cons, List.append_assoc]
    split
    · rfl
    · exact ih

/-- Distinct names that are new to a list repeat nothing in it. -/
theorem repeated?_append {before after : List String} (nodup : after.Nodup)
    (fresh : ∀ name ∈ after, name ∉ before) : repeated? (before ++ after) = repeated? before := by
  have silent : repeatedAfter? (before.reverse ++ []) after = none := by
    rw [repeatedAfter?_eq_none_iff, List.append_nil]
    refine ⟨nodup, ?_⟩
    intro name mem old
    exact fresh name mem (List.mem_reverse.mp old)
  rw [repeated?, repeatedAfter?_append, silent, Option.or_none, ← repeated?]

theorem repeatedAfter?_eq_some_iff {seen names : List String} {name : String} :
    repeatedAfter? seen names = some name ↔ ∃ before after, names = before ++ name :: after ∧
      repeatedAfter? seen before = none ∧ (name ∈ before ∨ name ∈ seen) := by
  constructor
  · intro found
    induction names generalizing seen with
    | nil => cases found
    | cons head rest ih =>
      unfold repeatedAfter? at found
      split at found
      · rename_i old
        obtain rfl := Option.some.inj found
        exact ⟨[], rest, rfl, rfl, .inr old⟩
      · rename_i new
        obtain ⟨before, after, rfl, silent, old⟩ := ih found
        refine ⟨head :: before, after, rfl, ?_, ?_⟩
        · rw [repeatedAfter?, if_neg new, silent]
        · rcases old with old | old
          · exact .inl (List.mem_cons_of_mem _ old)
          · rcases List.mem_cons.mp old with rfl | old
            · exact .inl List.mem_cons_self
            · exact .inr old
  · rintro ⟨before, after, rfl, silent, old⟩
    have again : name ∈ before.reverse ++ seen := by
      rwa [List.mem_append, List.mem_reverse]
    rw [repeatedAfter?_append, silent, Option.none_or, repeatedAfter?, if_pos again]

/-- The name to complain about is the first that occurs before, among names that are distinct so
far. -/
theorem repeated?_eq_some_iff {names : List String} {name : String} :
    repeated? names = some name ↔
      ∃ before after, names = before ++ name :: after ∧ before.Nodup ∧ name ∈ before := by
  simp only [repeated?, repeatedAfter?_eq_some_iff, ← repeated?_eq_none_iff, List.not_mem_nil,
    or_false]

end Criteria.Names
