import Criteria.Proofs.Predicate.Pattern
import Criteria.Proofs.Value.Literal

/-!
# Explained comparisons

The text of a comparison is its symbol, up to the first space, then the literal of its operand, of
which the end is seen, and then the clause of its escape character, which is a text of one
character. So comparisons of one column with plain values are told apart by their texts, and two
searches by what they search for.
-/

namespace Criteria

variable {r s : List Char}

/-! ## The parts of a comparison -/

namespace Relation

variable {relation other : Relation}

theorem symbol_inj : relation.symbol = other.symbol ↔ relation = other := by
  cases relation <;> cases other <;> simp [symbol]

/-- A symbol ends at the first space. -/
theorem symbol_append_inj
    (h : relation.symbol.toList ++ ' ' :: r = other.symbol.toList ++ ' ' :: s) :
    relation = other ∧ r = s := by
  have noSpace (relation : Relation) : ∀ c ∈ relation.symbol.toList, (c != ' ') = true := by
    cases relation <;> simp [symbol]
  obtain ⟨symbol, rest⟩ := append_inj_of_head? (noSpace relation) (noSpace other)
    (by simp) (by simp) h
  exact ⟨symbol_inj.mp (String.toList_inj.mp symbol), (List.cons.inj rest).2⟩

end Relation

/-- The escape character is written as a text of one character. -/
theorem escapeClause_some (c : Char) :
    escapeClause (some c) = " ESCAPE " ++ (Value.text (String.singleton c)).literal := by
  by_cases quote : c = '\''
  · subst quote
    rfl
  · have plain : Value.doubled [c] = [c] := by
      rw [Value.doubled_cons, if_neg quote]
      rfl
    have clause : escapeClause (some c) = " ESCAPE '" ++ String.singleton c ++ "'" := by
      rw [escapeClause]
      simpa using quote
    rw [clause, Value.literal, String.toList_singleton, plain, ← String.toList_inj]
    simp

theorem escapeClause_inj {escape other : Option Char} :
    escapeClause escape = escapeClause other ↔ escape = other := by
  refine ⟨fun h => ?_, congrArg escapeClause⟩
  cases escape with
  | none =>
    cases other with
    | none => rfl
    | some d =>
      rw [escapeClause_some] at h
      exact absurd (congrArg String.toList h) (by simp [escapeClause])
  | some c =>
    cases other with
    | none =>
      rw [escapeClause_some] at h
      exact absurd (congrArg String.toList h) (by simp [escapeClause])
    | some d =>
      rw [escapeClause_some, escapeClause_some, String.append_right_inj,
        (Value.Plain.text _).literal_inj (.text _)] at h
      exact congrArg some (String.singleton_inj.mp (Value.text.inj h))

theorem endsBefore_escapeClause (escape : Option Char) (kind : ValueKind) :
    kind.EndsBefore (escapeClause escape).toList := by
  cases escape with
  | none => exact kind.endsBefore_nil
  | some c =>
    rw [escapeClause_some, String.toList_append]
    exact ValueKind.endsBefore_cons (by decide) _ kind

/-- A comparison with a plain value is told by its text. -/
theorem Comparison.text_inj {comparison other : Comparison} (plain : comparison.operand.Plain)
    (plain' : other.operand.Plain) : comparison.text = other.text ↔ comparison = other := by
  refine ⟨fun h => ?_, congrArg text⟩
  obtain ⟨relation, operand, escape⟩ := comparison
  obtain ⟨relation', operand', escape'⟩ := other
  have texts : relation.symbol.toList ++ ' ' ::
        (operand.literal.toList ++ (escapeClause escape).toList) =
      relation'.symbol.toList ++ ' ' ::
        (operand'.literal.toList ++ (escapeClause escape').toList) := by
    simpa [text] using congrArg String.toList h
  obtain ⟨rfl, rest⟩ := Relation.symbol_append_inj texts
  obtain ⟨rfl, clause⟩ := plain.literal_append_inj plain' (endsBefore_escapeClause escape _)
    (endsBefore_escapeClause escape' _) rest
  obtain rfl := escapeClause_inj.mp (String.toList_inj.mp clause)
  rfl

namespace Predicate

theorem text_compare_inj {column : Column} {comparison other : Comparison}
    (plain : comparison.operand.Plain) (plain' : other.operand.Plain) :
    (compare column comparison).text = (compare column other).text ↔ comparison = other := by
  rw [text, text, String.append_right_inj, Comparison.text_inj plain plain']

theorem text_search_inj {column : Column} {escape : Char} (not_many : escape ≠ '%')
    {form form' : String} :
    (compare column ⟨.like, .text (Pattern.containing form escape), some escape⟩).text =
      (compare column ⟨.like, .text (Pattern.containing form' escape), some escape⟩).text ↔
      form = form' := by
  rw [text_compare_inj (.text _) (.text _), ← Pattern.containing_inj not_many]
  simp

/-- An explanation can be read in one way only. Plain values with equal literals are equal, and
where a literal stands before something else, its end is seen. Comparisons of one column with plain
values have equal texts only if they are equal in relation, operand and escape character. The
searches that a column is asked for have equal texts only if they search for the same. -/
theorem readsOneWay (column : Column) :
    (∀ v w : Value, v.Plain → w.Plain →
      (v.literal = w.literal ↔ v = w) ∧ (v == w ↔ v = w) ∧
      ∀ r s : String, v.kind.EndsBefore r.toList → w.kind.EndsBefore s.toList →
        (v.literal ++ r = w.literal ++ s ↔ v = w ∧ r = s)) ∧
    (∀ comparison other : Comparison, comparison.operand.Plain → other.operand.Plain →
      ((compare column comparison).text = (compare column other).text ↔ comparison = other)) ∧
    (∀ escape, escape ≠ '%' → ∀ (v w : Value) form form',
      v.searchText? = some form → w.searchText? = some form' →
      ∀ field field' type type', ∃ search search',
        Comparison.ofField field .like v type escape = .ok search ∧
        Comparison.ofField field' .like w type' escape = .ok search' ∧
        ((compare column search).text = (compare column search').text ↔ form = form')) := by
  refine ⟨?_, fun _ _ => text_compare_inj, ?_⟩
  · intro v w plain plain'
    exact ⟨plain.literal_inj plain', plain.beq_iff w, fun _ _ => plain.append_eq_append_iff plain'⟩
  · intro escape not_many v w form form' searched searched' field field' type type'
    exact ⟨_, _, Comparison.ofField_eq_ok_iff.mpr (.like searched),
      Comparison.ofField_eq_ok_iff.mpr (.like searched'), text_search_inj not_many⟩

/-- Texts that hold quotes, commas or an escape clause are not taken for what they look like, nor is
the search for an escape character taken for the search for one with a wildcard after it. -/
theorem readsOneWay_lookalikes :
    (Value.map [(.text "ids", .list [.text "1', '2"])]).literal =
      "\x7b'ids': ('1'', ''2')\x7d" ∧
    (Value.map [(.text "ids", .list [.text "1", .text "2"])]).literal ≠
      "\x7b'ids': ('1'', ''2')\x7d" ∧
    (compare (.root "name") ⟨.like, .text "a", some '\''⟩).text = "name LIKE 'a' ESCAPE ''''" ∧
    (compare (.root "name") ⟨.like, .text "a' ESCAPE ''", none⟩).text ≠
      "name LIKE 'a' ESCAPE ''''" ∧
    ∃ search search',
      Comparison.ofField "name" .like (.text "5!") .text '!' = .ok search ∧
      Comparison.ofField "name" .like (.text "5!%") .text '!' = .ok search' ∧
      (compare (.root "name") search).text ≠ (compare (.root "name") search').text := by
  obtain ⟨values, comparisons, searches⟩ := readsOneWay (.root "name")
  have ids (items : List Value) (texts : ∀ v ∈ items, v.Plain) :
      (Value.map [(.text "ids", .list items)]).Plain :=
    .map (List.forall_mem_singleton.mpr (.text _)) (List.forall_mem_singleton.mpr (.list texts))
  obtain ⟨search, search', built, built', same⟩ :=
    searches '!' (by decide) (.text "5!") (.text "5!%") _ _ (Value.searchText?_text _)
      (Value.searchText?_text _) "name" "name" .text .text
  refine ⟨rfl, ?_, rfl, ?_, search, search', built, built', same.not.mpr (by decide)⟩
  · have plain := ids [.text "1', '2"] (List.forall_mem_singleton.mpr (.text _))
    have plain' := ids [.text "1", .text "2"]
      (List.forall_mem_cons.mpr ⟨.text _, List.forall_mem_singleton.mpr (.text _)⟩)
    obtain ⟨literals, -, -⟩ := values _ _ plain' plain
    exact literals.not.mpr (by simp)
  · exact (comparisons ⟨.like, .text "a' ESCAPE ''", none⟩ ⟨.like, .text "a", some '\''⟩
      (.text _) (.text _)).not.mpr (by simp)

end Predicate

end Criteria
