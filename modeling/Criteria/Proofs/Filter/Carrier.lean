import Criteria.Filter.Criterion
import Criteria.Proofs.Filter.Validation
import Mathlib.Data.List.Forall2

/-!
# What the value of a carrier is read as

A carrier that is null carries nothing, and one that maps texts to operators carries, for each name,
the operator of its last entry. Every other value is refused for what it looks like: as a whole if
it is no map, and else by the first entry that is amiss, its key before its value. This is
`Overrides.Reads`. Operators that are made a value are of this form and are read back as they were.
-/

namespace Criteria

/-- The value names an operator: it is the variant of the operator's name, and its enumeration is
that of operators or is not given. -/
inductive Value.Names : Value → Operator → Prop
  | intro (operator : Operator) {path : Option String}
      (known : path = none ∨ path = some "Operator") :
      Names (.tagged ⟨operator.name, path⟩) operator

namespace Overrides

/-- A map entry stores an operator for a name: its key is the name as a text, and its value names
the operator. -/
inductive Stores : Value × Value → String × Operator → Prop
  | intro (name : String) {value : Value} {operator : Operator} (names : value.Names operator) :
      Stores (.text name, value) (name, operator)

/-- What the value of a carrier is read as. -/
inductive Reads (carrier : String) : Value → Except FilterError Overrides → Prop
  | null : Reads carrier .null (.ok ∅)
  | map {entries : List (Value × Value)} {pairs : List (String × Operator)} {overrides : Overrides}
      (stores : List.Forall₂ Stores entries pairs)
      (last : ∀ name, overrides.get? name = pairs.reverse.lookup name) :
      Reads carrier (.map entries) (.ok overrides)
  | noMap {value : Value} (present : value.kind ≠ .null) (other : value.kind ≠ .map) :
      Reads carrier value (.error (.carrierType carrier value.kind.name))
  | badKey {before after : List (Value × Value)} {key value : Value}
      (good : ∀ entry ∈ before, ∃ pair, Stores entry pair) (bad : key.kind ≠ .text) :
      Reads carrier (.map (before ++ (key, value) :: after))
        (.error (.carrierType carrier ("Map<" ++ key.kind.name ++ ", _>")))
  | badValue {before after : List (Value × Value)} {name : String} {value : Value}
      (good : ∀ entry ∈ before, ∃ pair, Stores entry pair)
      (bad : ∀ operator, ¬ value.Names operator) :
      Reads carrier (.map (before ++ (.text name, value) :: after))
        (.error (.carrierType carrier ("Map<Text, " ++ value.kind.name ++ ">")))

variable {carrier : String} {value : Value} {entries : List (Value × Value)}
  {pairs : List (String × Operator)} {operator : Operator} {outcome : Except FilterError Overrides}

/-! ## Entries -/

theorem operator?_eq_some_iff : operator? value = some operator ↔ value.Names operator := by
  constructor
  · intro found
    unfold operator? at found
    split at found
    · rename_i tag
      obtain ⟨variant, path⟩ := tag
      rw [Operator.ofTag?, Option.ite_none_right_eq_some, Operator.ofName?_eq_some_iff] at found
      obtain ⟨known, rfl⟩ := found
      refine .intro operator ?_
      cases path with
      | none => exact .inl rfl
      | some path => exact .inr (congrArg some (of_decide_eq_true known))
    · cases found
  · rintro ⟨_, rfl | rfl⟩
    · exact Operator.ofName?_name operator
    · exact Operator.ofTag?_toTag operator

theorem operator?_eq_none_iff : operator? value = none ↔ ∀ operator, ¬ value.Names operator := by
  simp only [Option.eq_none_iff_forall_ne_some, ne_eq, operator?_eq_some_iff]

/-- Entries that each store an operator store them one by one. -/
theorem exists_stores_iff : (∃ pairs, List.Forall₂ Stores entries pairs) ↔
    ∀ entry ∈ entries, ∃ pair, Stores entry pair := by
  induction entries with
  | nil => exact ⟨nofun, fun _ => ⟨[], .nil⟩⟩
  | cons entry rest ih =>
    rw [List.forall_mem_cons, ← ih]
    constructor
    · rintro ⟨_, head | ⟨head, tail⟩⟩
      exact ⟨⟨_, head⟩, _, tail⟩
    · rintro ⟨⟨pair, head⟩, pairs, tail⟩
      exact ⟨pair :: pairs, .cons head tail⟩

/-- All entries store an operator, or there is a first that does not. -/
theorem stores_or_exists_first (entries : List (Value × Value)) :
    (∀ entry ∈ entries, ∃ pair, Stores entry pair) ∨
      ∃ before entry after, entries = before ++ entry :: after ∧
        (∀ earlier ∈ before, ∃ pair, Stores earlier pair) ∧ ¬ ∃ pair, Stores entry pair := by
  induction entries with
  | nil => exact .inl nofun
  | cons head rest ih =>
    by_cases stores : ∃ pair, Stores head pair
    · rcases ih with all | ⟨before, entry, after, rfl, good, bad⟩
      · exact .inl (List.forall_mem_cons.mpr ⟨stores, all⟩)
      · exact .inr ⟨head :: before, entry, after, rfl,
          List.forall_mem_cons.mpr ⟨stores, good⟩, bad⟩
    · exact .inr ⟨[], head, rest, rfl, nofun, stores⟩

/-- Entries that store operators are put in one after the other, and then those that follow. -/
theorem collect_append_of_stores (stores : List.Forall₂ Stores entries pairs)
    (overrides : Overrides) (rest : List (Value × Value)) :
    collect carrier overrides (entries ++ rest) =
      collect carrier (pairs.foldl (fun d pair => d.insert pair.1 pair.2) overrides) rest := by
  induction stores generalizing overrides with
  | nil => rfl
  | cons head _ ih =>
    obtain ⟨name, names⟩ := head
    rw [List.cons_append, collect, operator?_eq_some_iff.mpr names]
    exact ih _

theorem collect_of_stores (stores : List.Forall₂ Stores entries pairs) :
    collect carrier ∅ entries = .ok (.ofList pairs) := by
  calc collect carrier ∅ entries
      = collect carrier ∅ (entries ++ []) := by rw [List.append_nil]
    _ = collect carrier (.ofList pairs) [] := collect_append_of_stores stores ∅ []
    _ = .ok (.ofList pairs) := rfl

/-! ## Whole values -/

/-- A value is read in the way that it says. -/
theorem Reads.ofValue_eq (reads : Reads carrier value outcome) :
    ofValue carrier value = outcome := by
  cases reads with
  | null => rfl
  | @map entries pairs overrides stores last =>
    have same : Dictionary.ofList pairs = overrides := by
      apply Dictionary.ext_get?
      intro name
      rw [Dictionary.get?_ofList, last]
    rw [ofValue, collect_of_stores stores, same]
  | noMap present other =>
    cases value with
    | null => exact absurd rfl present
    | map => exact absurd rfl other
    | _ => rfl
  | @badKey before after key value good bad =>
    obtain ⟨pairs, stores⟩ := exists_stores_iff.mpr good
    rw [ofValue, collect_append_of_stores stores]
    cases key with
    | text => exact absurd rfl bad
    | _ => rfl
  | @badValue before after name value good bad =>
    obtain ⟨pairs, stores⟩ := exists_stores_iff.mpr good
    rw [ofValue, collect_append_of_stores stores, collect, operator?_eq_none_iff.mpr bad]

/-- Every map is read in some way: its entries are all good, or one is the first that is not. -/
theorem exists_reads_map (carrier : String) (entries : List (Value × Value)) :
    ∃ outcome, Reads carrier (.map entries) outcome := by
  rcases stores_or_exists_first entries with all | ⟨before, ⟨key, value⟩, after, rfl, good, bad⟩
  · obtain ⟨pairs, stores⟩ := exists_stores_iff.mpr all
    exact ⟨_, .map stores (Dictionary.get?_ofList pairs)⟩
  · by_cases isText : key.kind = .text
    · cases key with
      | text name => exact ⟨_, .badValue good fun operator names => bad ⟨_, .intro name names⟩⟩
      | _ => cases isText
    · exact ⟨_, .badKey good isText⟩

/-- Every value is read in some way. -/
theorem exists_reads (carrier : String) (value : Value) :
    ∃ outcome, Reads carrier value outcome := by
  cases value with
  | null => exact ⟨_, .null⟩
  | map entries => exact exists_reads_map carrier entries
  | _ => exact ⟨_, .noMap nofun nofun⟩

theorem ofValue_eq_iff : ofValue carrier value = outcome ↔ Reads carrier value outcome := by
  refine ⟨?_, Reads.ofValue_eq⟩
  rintro rfl
  obtain ⟨outcome, reads⟩ := exists_reads carrier value
  rwa [reads.ofValue_eq]

/-- A value is accepted when it is null or maps texts to operators. -/
theorem exists_ofValue_eq_ok_iff : (∃ overrides, ofValue carrier value = .ok overrides) ↔
    value = .null ∨
      ∃ entries, value = .map entries ∧ ∀ entry ∈ entries, ∃ pair, Stores entry pair := by
  simp only [ofValue_eq_iff]
  constructor
  · rintro ⟨overrides, reads⟩
    cases reads with
    | null => exact .inl rfl
    | map stores => exact .inr ⟨_, rfl, exists_stores_iff.mp ⟨_, stores⟩⟩
  · rintro (rfl | ⟨entries, rfl, all⟩)
    · exact ⟨_, .null⟩
    · obtain ⟨pairs, stores⟩ := exists_stores_iff.mpr all
      exact ⟨_, .map stores (Dictionary.get?_ofList pairs)⟩

/-- Operators that are made a value are read as they were. -/
theorem reads_toValue (carrier : String) (overrides : Overrides) :
    Reads carrier (toValue overrides) (.ok overrides) := by
  have stores : List.Forall₂ Stores
      (overrides.entries.map fun entry => (.text entry.1, toValue entry.2)) overrides.entries := by
    rw [List.forall₂_map_left_iff, List.forall₂_same]
    intro entry _
    exact .intro entry.1 (.intro entry.2 (.inr rfl))
  exact .map stores fun name => (overrides.lookup_reverse_entries name).symm

end Overrides

/-! ## Carriers of checked models -/

/-- The carrier carries operators exactly. All operators, in whatever way they were put together,
come back from the value that they are made; a value of the carrier is accepted only if it is null
or maps texts to operators; and each value is read, or refused, in the one way that it says. -/
structure FilterLayout.CarriesExactly (layout : FilterLayout) (carrier : String) : Prop where
  overrides_of_toValue : ∀ values (overrides : Overrides), values carrier = toValue overrides →
    layout.overrides values = .ok overrides
  accepts_iff : ∀ values, (∃ overrides, layout.overrides values = .ok overrides) ↔
    values carrier = .null ∨ ∃ entries, values carrier = .map entries ∧
      ∀ entry ∈ entries, ∃ pair, Overrides.Stores entry pair
  overrides_eq_iff : ∀ values outcome,
    layout.overrides values = outcome ↔ Overrides.Reads carrier (values carrier) outcome

namespace FilterModel

variable {model : FilterModel} {layout : FilterLayout} {field : FilterField}

/-- The carrier of a layout is the field of the model that is declared for it. -/
theorem carrier_of_layout (h : model.layout = .ok layout) (mem : field ∈ model.fields)
    (role : field.role = .overrides) : layout.carrier = some field.name := by
  obtain ⟨-, few, -, rfl⟩ := layout_eq_ok_iff.mp h
  have carries : field ∈ model.carriers := List.mem_filter.mpr ⟨mem, decide_eq_true role⟩
  obtain ⟨only, alone⟩ := List.length_eq_one_iff.mp
    (Nat.le_antisymm few (List.length_pos_of_mem carries))
  rw [alone] at carries
  obtain rfl := List.mem_singleton.mp carries
  simp only [alone]
  rfl

/-- The carrier of a checked model carries operators exactly. -/
theorem carriesExactly_of_layout (h : model.layout = .ok layout) (mem : field ∈ model.fields)
    (role : field.role = .overrides) : layout.CarriesExactly field.name := by
  have read (values : FilterValue) :
      layout.overrides values = Overrides.ofValue field.name (values field.name) := by
    rw [FilterLayout.overrides, carrier_of_layout h mem role]
  constructor
  case overrides_of_toValue =>
    intro values overrides eq
    rw [read, eq]
    exact (Overrides.reads_toValue field.name overrides).ofValue_eq
  case accepts_iff =>
    intro values
    rw [read]
    exact Overrides.exists_ofValue_eq_ok_iff
  case overrides_eq_iff =>
    intro values outcome
    rw [read]
    exact Overrides.ofValue_eq_iff

end FilterModel

namespace Staff

/-- A search of persons by name and team, with a carrier between the two. -/
def roster : FilterModel :=
  ⟨"Roster", [.criterion "name" .text, .carrier "match", .criterion "team" .text]⟩

/-- The values of a search for which nothing is set but the carrier. -/
def carrying (value : Value) : FilterValue
  | "match" => value
  | _ => .null

theorem carriesExactly_roster : ∃ layout overrides,
    roster.layout = .ok layout ∧
      layout.overrides (carrying (.map [(.text "team", .tagged ⟨"LIKE", none⟩),
        (.text "team", .tagged ⟨"IN", some "Operator"⟩)])) = .ok overrides ∧
      overrides.entries = [("team", .among)] ∧
      layout.overrides (carrying (toValue overrides)) = .ok overrides ∧
      layout.overrides (carrying (.map [(.text "name", .tagged ⟨"LIKE", none⟩),
        (.text "team", .tagged ⟨"like", none⟩), (.int 1, .null)])) =
          .error (.carrierType "match" "Map<Text, Enum>") := by
  have declared : FilterField.carrier "match" ∈ roster.fields :=
    List.mem_cons_of_mem _ List.mem_cons_self
  have checked : roster.layout = .ok _ := rfl
  obtain ⟨readsBack, -, reads⟩ := FilterModel.carriesExactly_of_layout checked declared rfl
  have like : Overrides.Stores (.text "name", .tagged ⟨"LIKE", none⟩) ("name", .like) :=
    .intro "name" (.intro .like (.inl rfl))
  have unknown : ∀ operator, ¬ Value.Names (.tagged ⟨"like", none⟩) operator :=
    Overrides.operator?_eq_none_iff.mp rfl
  refine ⟨_, .ofList [("team", .like), ("team", .among)], checked, ?_, rfl, readsBack _ _ rfl, ?_⟩
  · rw [reads]
    exact .map (.cons (.intro "team" (.intro .like (.inl rfl)))
      (.cons (.intro "team" (.intro .among (.inr rfl))) .nil)) (Dictionary.get?_ofList _)
  · rw [reads]
    exact .badValue (List.forall_mem_singleton.mpr ⟨_, like⟩) unknown

end Staff

end Criteria
