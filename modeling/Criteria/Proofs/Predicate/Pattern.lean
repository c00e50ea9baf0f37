import Criteria.Config.Basic
import Criteria.Proofs.Predicate.Comparison
import Mathlib.Data.List.Infix

/-!
# Patterns that search

`Pattern.Matches` says which texts a pattern matches. The pattern of a text escapes whatever has a
meaning in it, so between the two `%` around it stands the text alone, and the pattern matches
where the text occurs: `Pattern.Searches`. That takes an escape character that is no wildcard, as
the check of the configuration demands.
-/

namespace Criteria

/-- The escape characters that a checked configuration may have are those that are no wildcards. -/
theorem Config.exists_check_iff {escape : Char} :
    (∃ config : Config, config.escape = escape ∧ config.check = .ok ()) ↔
      escape ≠ '%' ∧ escape ≠ '_' := by
  constructor
  · rintro ⟨config, rfl, checked⟩
    exact (check_eq_ok_iff.mp checked).2.1
  · intro no_wildcard
    have sound : standard.check = .ok () := rfl
    obtain ⟨separator, -, sizes⟩ := check_eq_ok_iff.mp sound
    exact ⟨{ standard with escape }, rfl, check_eq_ok_iff.mpr ⟨separator, no_wildcard, sizes⟩⟩

namespace Pattern

/-! ## Matching -/

/-- A pattern matches a text. The escape character makes the next one literal; else `%` stands for
any characters, `_` for one, and every other character for itself. Nothing matches a pattern that
ends in the escape character. -/
inductive Matches (escape : Char) : List Char → List Char → Prop
  | nil : Matches escape [] []
  | escaped {c : Char} {pattern subject : List Char} (rest : Matches escape pattern subject) :
      Matches escape (escape :: c :: pattern) (c :: subject)
  | many {pattern subject : List Char} (plain : '%' ≠ escape) (skipped : List Char)
      (rest : Matches escape pattern subject) :
      Matches escape ('%' :: pattern) (skipped ++ subject)
  | one {pattern subject : List Char} (plain : '_' ≠ escape) (c : Char)
      (rest : Matches escape pattern subject) : Matches escape ('_' :: pattern) (c :: subject)
  | literal {c : Char} {pattern subject : List Char} (plain : c ≠ escape) (not_many : c ≠ '%')
      (not_one : c ≠ '_') (rest : Matches escape pattern subject) :
      Matches escape (c :: pattern) (c :: subject)

/-- Every escape character of the pattern stands before a wildcard or an escape character. -/
inductive WellEscaped (escape : Char) : List Char → Prop
  | nil : WellEscaped escape []
  | escaped {c : Char} {pattern : List Char} (special : c = '%' ∨ c = '_' ∨ c = escape)
      (rest : WellEscaped escape pattern) : WellEscaped escape (escape :: c :: pattern)
  | plain {c : Char} {pattern : List Char} (plain : c ≠ escape)
      (rest : WellEscaped escape pattern) : WellEscaped escape (c :: pattern)

variable {escape c : Char} {text pattern subject : List Char}

theorem matches_nil_iff : Matches escape [] subject ↔ subject = [] := by
  constructor
  · intro h
    cases h
    rfl
  · rintro rfl
    exact .nil

theorem matches_escaped_iff : Matches escape (escape :: c :: pattern) subject ↔
    ∃ rest, subject = c :: rest ∧ Matches escape pattern rest := by
  constructor
  · intro h
    cases h with
    | escaped rest => exact ⟨_, rfl, rest⟩
    | many plain => exact absurd rfl plain
    | one plain => exact absurd rfl plain
    | literal plain => exact absurd rfl plain
  · rintro ⟨rest, rfl, h⟩
    exact .escaped h

theorem matches_many_iff (plain : '%' ≠ escape) : Matches escape ('%' :: pattern) subject ↔
    ∃ skipped rest, subject = skipped ++ rest ∧ Matches escape pattern rest := by
  constructor
  · intro h
    cases h with
    | escaped => exact absurd rfl plain
    | many _ skipped rest => exact ⟨skipped, _, rfl, rest⟩
    | literal _ not_many => exact absurd rfl not_many
  · rintro ⟨skipped, rest, rfl, h⟩
    exact .many plain skipped h

theorem matches_literal_iff (plain : c ≠ escape) (not_many : c ≠ '%') (not_one : c ≠ '_') :
    Matches escape (c :: pattern) subject ↔
      ∃ rest, subject = c :: rest ∧ Matches escape pattern rest := by
  constructor
  · intro h
    cases h with
    | escaped => exact absurd rfl plain
    | many => exact absurd rfl not_many
    | one => exact absurd rfl not_one
    | literal _ _ _ rest => exact ⟨_, rfl, rest⟩
  · rintro ⟨rest, rfl, h⟩
    exact .literal plain not_many not_one h

/-! ## Patterns of literal texts -/

/-- An escaped text matches itself alone, whatever pattern follows it. -/
theorem matches_literally_append_iff :
    Matches escape (literally escape text ++ pattern) subject ↔
      ∃ rest, subject = text ++ rest ∧ Matches escape pattern rest := by
  induction text generalizing subject with
  | nil => simp [literally]
  | cons c text ih =>
    -- either way one character is taken, and it is `c`
    have step : Matches escape (literally escape (c :: text) ++ pattern) subject ↔
        ∃ rest, subject = c :: rest ∧
          Matches escape (literally escape text ++ pattern) rest := by
      rw [literally]
      split
      · exact matches_escaped_iff
      · rename_i ordinary
        obtain ⟨not_many, not_one, plain⟩ : c ≠ '%' ∧ c ≠ '_' ∧ c ≠ escape := by
          simpa only [not_or] using ordinary
        exact matches_literal_iff plain not_many not_one
    rw [step]
    simp only [ih]
    constructor
    · rintro ⟨_, rfl, rest, rfl, h⟩
      exact ⟨rest, rfl, h⟩
    · rintro ⟨rest, rfl, h⟩
      exact ⟨text ++ rest, rfl, rest, rfl, h⟩

theorem wellEscaped_literally_append (h : WellEscaped escape pattern) :
    WellEscaped escape (literally escape text ++ pattern) := by
  induction text with
  | nil => exact h
  | cons c text ih =>
    unfold literally
    split
    · rename_i special
      exact .escaped special ih
    · rename_i ordinary
      exact .plain (fun same => ordinary (.inr (.inr same))) ih

/-! ## Substring search -/

/-- The pattern is a search for the text: it has no stray escape character, and it matches exactly
the texts in which the text occurs. -/
structure Searches (escape : Char) (pattern text : String) : Prop where
  wellEscaped : WellEscaped escape pattern.toList
  matches_iff : ∀ subject : String,
    Matches escape pattern.toList subject.toList ↔ text.toList <:+: subject.toList

theorem searches_containing (plain : escape ≠ '%') (text : String) :
    Searches escape (containing text escape) text := by
  constructor
  case wellEscaped =>
    rw [containing, String.toList_ofList]
    exact .plain plain.symm (wellEscaped_literally_append (.plain plain.symm .nil))
  case matches_iff =>
    intro subject
    rw [containing, String.toList_ofList, List.cons_append, matches_many_iff plain.symm]
    simp only [matches_literally_append_iff, matches_many_iff plain.symm, matches_nil_iff]
    constructor
    · rintro ⟨before, _, all, _, rfl, after, _, rfl, rfl⟩
      exact ⟨before, after, by simp [all]⟩
    · rintro ⟨before, after, all⟩
      exact ⟨before, text.toList ++ after, by simp [← all], after, rfl, after, [], by simp, rfl⟩

/-- The pattern of a text tells which text it is. -/
theorem containing_inj {escape : Char} (not_many : escape ≠ '%') {text other : String} :
    containing text escape = containing other escape ↔ text = other := by
  refine ⟨fun h => ?_, fun h => h ▸ rfl⟩
  -- each pattern matches the text it was made of, and so it is found in that text
  have found {text other : String} (h : containing text escape = containing other escape) :
      text.toList <:+: other.toList := by
    rw [← (searches_containing not_many text).matches_iff other, h,
      (searches_containing not_many other).matches_iff other]
  exact String.toList_inj.mp (List.infix_antisymm (found h) (found h.symm))

/-- With an escape character that is no wildcard, which is what the check of a configuration admits,
the pattern of a text is a search for it; and the comparison that substring search makes of a text
or a number is a search for its search form. -/
theorem searches_of_not_wildcard {escape : Char} (not_many : escape ≠ '%')
    (not_one : escape ≠ '_') :
    (∃ config : Config, config.escape = escape ∧ config.check = .ok ()) ∧
      (∀ text, Searches escape (containing text escape) text) ∧
      ∀ field value type,
        value.kind = .text ∨ value.kind = .int ∨ value.kind = .uint ∨ value.kind = .float →
        ∃ form pattern, value.searchText? = some form ∧
          Comparison.ofField field .like value type escape =
            .ok ⟨.like, .text pattern, some escape⟩ ∧
          Searches escape pattern form := by
  refine ⟨Config.exists_check_iff.mpr ⟨not_many, not_one⟩, searches_containing not_many, ?_⟩
  intro field value type searchable
  obtain ⟨form, searched⟩ := Option.isSome_iff_exists.mp
    (Value.isSome_searchText?_iff.mpr searchable)
  exact ⟨form, containing form escape, searched,
    Comparison.ofField_eq_ok_iff.mpr (.like searched), searches_containing not_many form⟩

/-- Neither the wildcard nor the escape character in the text has a meaning in its pattern. -/
theorem searches_discount :
    containing "50%!" '!' = "%50!%!!%" ∧ Searches '!' "%50!%!!%" "50%!" ∧
      Matches '!' "%50!%!!%".toList "now 50%! off".toList ∧
      ¬ Matches '!' "%50!%!!%".toList "now 500! off".toList ∧
      ∃ pattern, Comparison.ofField "level" .like (.int (-5)) .int '!' =
        .ok ⟨.like, .text pattern, some '!'⟩ ∧ Searches '!' pattern "-5" := by
  have not_many : '!' ≠ '%' := by decide
  have not_one : '!' ≠ '_' := by decide
  obtain ⟨-, texts, values⟩ := searches_of_not_wildcard not_many not_one
  have search : Searches '!' "%50!%!!%" "50%!" := texts "50%!"
  obtain ⟨form, pattern, searched, compared, numeric⟩ :=
    values "level" (.int (-5)) .int (.inr (.inl rfl))
  have digits : (Value.int (-5)).searchText? = some "-5" := Value.searchText?_int (-5)
  obtain rfl := Option.some.inj (digits.symm.trans searched)
  refine ⟨rfl, search, ?_, ?_, pattern, compared, numeric⟩
  · rw [search.matches_iff]
    decide
  · rw [search.matches_iff]
    decide

end Pattern

end Criteria
