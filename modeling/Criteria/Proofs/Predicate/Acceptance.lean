import Criteria.Proofs.Binary64.Denotation
import Criteria.Proofs.Predicate.Comparison

/-!
# What operators accept

The equalities take any value, a search takes texts and numbers, membership takes lists, and an
ordering takes the numbers that the type of the column holds exactly, `Value.Fits`. What an ordering
then compares with is a number of that type, and it is the very number that the value is; so two
values are ordered by one column as they are as numbers. A refusal says of which field, operator,
value and column it is.
-/

namespace Criteria

namespace Value

variable {type : FieldType} {value number other : Value}

/-! ## Numbers -/

/-- The number that a value is. -/
def number? : Value → Option ℚ
  | .int n => some n.toInt
  | .uint n => some n.toNat
  | .float x =>
    match x.meaning with
    | .number value => some value
    | _ => none
  | _ => none

theorem number?_float {x : Binary64} {q : ℚ} (h : x.meaning = .number q) :
    (Value.float x).number? = some q := by
  simp only [number?, h]

/-- Both values are one number. -/
def SameNumber (value other : Value) : Prop :=
  ∃ q, value.number? = some q ∧ other.number? = some q

/-- The numbers that the columns of a type hold. -/
inductive Native : FieldType → Value → Prop
  | int (n : Int64) : Native .int (.int n)
  | uint {type : FieldType} (counts : type = .uint ∨ type = .timestamp) (n : UInt64) :
      Native type (.uint n)
  | float {type : FieldType} (measures : type = .float ∨ type = .decimal) {x : Binary64} {q : ℚ}
      (finite : x.meaning = .number q) : Native type (.float x)

/-- The values whose number the columns of a type hold: for an integer column those within its
range, for a count or a moment those that are not negative, and for a measure the finite ones,
integers as long as every one of their magnitude is a float. -/
inductive Fits : FieldType → Value → Prop
  | int (n : Int64) : Fits .int (.int n)
  | intOfUint {n : UInt64} (small : n.toNat ≤ 2 ^ 63 - 1) : Fits .int (.uint n)
  | uint {type : FieldType} (counts : type = .uint ∨ type = .timestamp) (n : UInt64) :
      Fits type (.uint n)
  | uintOfInt {type : FieldType} (counts : type = .uint ∨ type = .timestamp) {n : Int64}
      (nonneg : 0 ≤ n.toInt) : Fits type (.int n)
  | float {type : FieldType} (measures : type = .float ∨ type = .decimal) {x : Binary64} {q : ℚ}
      (finite : x.meaning = .number q) : Fits type (.float x)
  | floatOfInt {type : FieldType} (measures : type = .float ∨ type = .decimal) {n : Int64}
      (exact : n.toInt.natAbs ≤ 2 ^ 53) : Fits type (.int n)
  | floatOfUint {type : FieldType} (measures : type = .float ∨ type = .decimal) {n : UInt64}
      (exact : n.toNat ≤ 2 ^ 53) : Fits type (.uint n)

/-! ## Coercion keeps the number -/

theorem coerce?_of_measures (measures : type = .float ∨ type = .decimal) (value : Value) :
    value.coerce? type = (value.toFloat?.filter (·.isFinite)).map .float := by
  rcases measures with rfl | rfl
  · rfl
  · rfl

theorem coerce?_of_meaning (measures : type = .float ∨ type = .decimal) {x : Binary64} {q : ℚ}
    (widened : value.toFloat? = some x) (finite : x.meaning = .number q) :
    value.coerce? type = some (.float x) := by
  rw [coerce?_of_measures measures, widened, Option.filter_some,
    if_pos (Binary64.isFinite_of_meaning finite), Option.map_some]

/-- A value that fits is coerced to the same number, as one of the type. -/
theorem Fits.exists_coerce? (fits : value.Fits type) : ∃ number,
    value.coerce? type = some number ∧ number.Native type ∧ value.SameNumber number := by
  cases fits with
  | int n => exact ⟨.int n, rfl, .int n, n.toInt, rfl, rfl⟩
  | @intOfUint n small =>
    have lt : n.toNat < 2 ^ 63 := by omega
    refine ⟨.int (.ofNat n.toNat), if_pos lt, .int _, n.toNat, rfl, ?_⟩
    rw [number?, Int64.toInt_ofNat_of_lt lt, Int.cast_natCast]
  | uint counts n =>
    refine ⟨.uint n, ?_, .uint counts n, n.toNat, rfl, rfl⟩
    rcases counts with rfl | rfl
    · rfl
    · rfl
  | @uintOfInt _ counts n nonneg =>
    have lt : n.toInt.toNat < UInt64.size := by
      have := n.toInt_lt
      simp only [UInt64.size]
      omega
    refine ⟨.uint (.ofNat n.toInt.toNat), ?_, .uint counts _, n.toInt, rfl, ?_⟩
    · rcases counts with rfl | rfl
      · exact if_pos nonneg
      · exact if_pos nonneg
    · rw [number?, UInt64.toNat_ofNat_of_lt' lt, ← Int.cast_natCast, Int.toNat_of_nonneg nonneg]
  | @float _ measures x q finite =>
    exact ⟨.float x, coerce?_of_meaning measures rfl finite, .float measures finite, q,
      number?_float finite, number?_float finite⟩
  | @floatOfInt _ measures n exact =>
    have finite := Binary64.meaning_ofInt exact
    exact ⟨.float (.ofInt n.toInt), coerce?_of_meaning measures (if_pos exact) finite,
      .float measures finite, n.toInt, rfl, number?_float finite⟩
  | @floatOfUint _ measures n exact =>
    have finite : (Binary64.ofNat false n.toNat).meaning = .number n.toNat :=
      Binary64.meaning_ofNat exact
    exact ⟨.float (.ofNat false n.toNat), coerce?_of_meaning measures (if_pos exact) finite,
      .float measures finite, n.toNat, rfl, number?_float finite⟩

/-- What widens to a finite float fits. -/
theorem fits_of_toFloat? (measures : type = .float ∨ type = .decimal) {x : Binary64}
    (widened : value.toFloat? = some x) (finite : x.isFinite = true) : value.Fits type := by
  cases value with
  | int n =>
    simp only [toFloat?, Option.ite_none_right_eq_some] at widened
    exact .floatOfInt measures widened.1
  | uint n =>
    simp only [toFloat?, Option.ite_none_right_eq_some] at widened
    exact .floatOfUint measures widened.1
  | float y =>
    cases widened
    exact .float measures (Binary64.meaning_of_isFinite finite)
  | null | bool | text | tagged | list | map => cases widened

/-- Only a value that fits is coerced. -/
theorem fits_of_coerce? (h : value.coerce? type = some number) : value.Fits type := by
  have measured (measures : type = .float ∨ type = .decimal) : value.Fits type := by
    rw [coerce?_of_measures measures] at h
    obtain ⟨x, kept, -⟩ := Option.map_eq_some_iff.mp h
    obtain ⟨widened, finite⟩ := Option.filter_eq_some_iff.mp kept
    exact fits_of_toFloat? measures widened finite
  unfold coerce? at h
  split at h
  case h_1 n => exact .int n
  case h_2 n =>
    have small : n.toNat < 2 ^ 63 := (Option.ite_none_right_eq_some.mp h).1
    exact .intOfUint (by omega)
  case h_3 n => exact .uint (.inl rfl) n
  case h_4 n => exact .uint (.inr rfl) n
  case h_5 n => exact .uintOfInt (.inl rfl) (Option.ite_none_right_eq_some.mp h).1
  case h_6 n => exact .uintOfInt (.inr rfl) (Option.ite_none_right_eq_some.mp h).1
  case h_7 => exact measured (.inl rfl)
  case h_8 => exact measured (.inr rfl)
  case h_9 => cases h

/-! ## Order -/

/-- Both values are numbers, and the first is the smaller. -/
def Below (value other : Value) : Prop :=
  ∃ p q, value.number? = some p ∧ other.number? = some q ∧ p < q

/-- The order of what one column holds: integers as signed words, counts as unsigned ones, and
measures by how many times the least positive one they are. -/
inductive Precedes : Value → Value → Prop
  | int {m n : Int64} (lt : m < n) : Precedes (.int m) (.int n)
  | uint {m n : UInt64} (lt : m < n) : Precedes (.uint m) (.uint n)
  | float {x y : Binary64} (lt : x.scaled < y.scaled) : Precedes (.float x) (.float y)

theorem below_iff {p q : ℚ} (first : value.number? = some p) (second : other.number? = some q) :
    value.Below other ↔ p < q := by
  constructor
  · rintro ⟨p', q', first', second', lt⟩
    cases first.symm.trans first'
    cases second.symm.trans second'
    exact lt
  · exact fun lt => ⟨p, q, first, second, lt⟩

theorem SameNumber.below_iff {value' other' : Value} (first : value.SameNumber value')
    (second : other.SameNumber other') : value'.Below other' ↔ value.Below other := by
  obtain ⟨p, first, first'⟩ := first
  obtain ⟨q, second, second'⟩ := second
  rw [Value.below_iff first' second', Value.below_iff first second]

/-- A column orders what it holds as numbers. -/
theorem Native.precedes_iff (first : value.Native type) (second : other.Native type) :
    value.Precedes other ↔ value.Below other := by
  cases first with
  | int m =>
    cases second with
    | int n =>
      rw [below_iff rfl rfl, Int.cast_lt, ← Int64.lt_iff_toInt_lt]
      exact ⟨fun | .int lt => lt, .int⟩
    | uint counts => cases counts <;> contradiction
    | float measures => cases measures <;> contradiction
  | @uint _ counts m =>
    cases second with
    | int => cases counts <;> contradiction
    | uint _ n =>
      rw [below_iff rfl rfl, Nat.cast_lt, ← UInt64.lt_iff_toNat_lt]
      exact ⟨fun | .uint lt => lt, .uint⟩
    | float measures => rcases counts with rfl | rfl <;> simp at measures
  | @float _ measures x p finite =>
    cases second with
    | int => cases measures <;> contradiction
    | uint counts => rcases counts with rfl | rfl <;> simp at measures
    | @float _ _ y q finite' =>
      rw [below_iff (number?_float finite) (number?_float finite'),
        ← Binary64.scaled_lt_iff finite finite']
      exact ⟨fun | .float lt => lt, .float⟩

end Value

namespace Comparison

variable {escape : Char} {type : FieldType} {operator : Operator} {relation : Relation}
  {value : Value} {comparison : Comparison}

/-- The operators that order. -/
inductive Orders : Operator → Relation → Prop
  | less : Orders .lessThan .less
  | greater : Orders .greaterThan .greater

/-- The values that an operator takes against a column of a type. -/
inductive Accepts (type : FieldType) : Operator → Value → Prop
  | equal (value : Value) : Accepts type .equal value
  | notEqual (value : Value) : Accepts type .notEqual value
  | like {value : Value} (searched : value.kind = .text ∨ value.kind = .int ∨ value.kind = .uint ∨
      value.kind = .float) : Accepts type .like value
  | among (items : List Value) : Accepts type .among (.list items)
  | ordered {operator : Operator} {relation : Relation} {value : Value}
      (orders : Orders operator relation) (fits : value.Fits type) : Accepts type operator value

theorem exists_asked_iff :
    (∃ comparison, Asked escape type operator value comparison) ↔ Accepts type operator value := by
  constructor
  · rintro ⟨comparison, asked⟩
    cases asked with
    | equal => exact .equal value
    | notEqual => exact .notEqual value
    | like searched => exact .like (Value.isSome_searchText?_iff.mp (searched ▸ rfl))
    | among items => exact .among items
    | less held => exact .ordered .less (Value.fits_of_coerce? held)
    | greater held => exact .ordered .greater (Value.fits_of_coerce? held)
  · intro accepts
    cases accepts with
    | equal => exact ⟨_, .equal value⟩
    | notEqual => exact ⟨_, .notEqual value⟩
    | like searched =>
      obtain ⟨text, searched⟩ :=
        Option.isSome_iff_exists.mp (Value.isSome_searchText?_iff.mpr searched)
      exact ⟨_, .like searched⟩
    | among items => exact ⟨_, .among items⟩
    | ordered orders fits =>
      obtain ⟨number, held, -⟩ := fits.exists_coerce?
      cases orders with
      | less => exact ⟨_, .less held⟩
      | greater => exact ⟨_, .greater held⟩

/-- An ordering compares with a number of the column's type, the one that the value is. -/
theorem Asked.exists_native (asked : Asked escape type operator value comparison)
    (orders : Orders operator relation) : ∃ number, comparison = ⟨relation, number, none⟩ ∧
      number.Native type ∧ value.SameNumber number := by
  have kept {number : Value} (held : value.coerce? type = some number) :
      number.Native type ∧ value.SameNumber number := by
    obtain ⟨number', held', kept⟩ := (Value.fits_of_coerce? held).exists_coerce?
    cases held.symm.trans held'
    exact kept
  cases orders with
  | less =>
    cases asked with
    | less held => exact ⟨_, rfl, kept held⟩
  | greater =>
    cases asked with
    | greater held => exact ⟨_, rfl, kept held⟩

/-- What a filter field comes to. Its operator takes exactly the values that `Accepts` names. An
ordering compares with the number that the value is, held as the column holds it, and two of them
on columns of one type order as their values do. A refusal says which field and operator, what the
value is and what the column holds. -/
theorem exact_ofField (field : String) (operator : Operator) (value : Value) (type : FieldType)
    (escape : Char) :
    ((∃ comparison, ofField field operator value type escape = .ok comparison) ↔
      Accepts type operator value) ∧
    (∀ relation comparison, Orders operator relation →
      ofField field operator value type escape = .ok comparison →
      (∃ number, comparison = ⟨relation, number, none⟩ ∧ number.Native type ∧
        value.SameNumber number) ∧
      ∀ field' operator' value' escape' relation' comparison', Orders operator' relation' →
        ofField field' operator' value' type escape' = .ok comparison' →
        (comparison.operand.Precedes comparison'.operand ↔ value.Below value')) ∧
    (∀ error, ofField field operator value type escape = .error error →
      ∃ mismatch, error = ⟨field, operator, value.kind, type, mismatch⟩) := by
  refine ⟨?_, ?_, ?_⟩
  · simp only [ofField_eq_ok_iff]
    exact exists_asked_iff
  · intro relation comparison orders h
    obtain ⟨number, rfl, native, same⟩ := (ofField_eq_ok_iff.mp h).exists_native orders
    refine ⟨⟨number, rfl, native, same⟩, ?_⟩
    intro field' operator' value' escape' relation' comparison' orders' h'
    obtain ⟨number', rfl, native', same'⟩ := (ofField_eq_ok_iff.mp h').exists_native orders'
    rw [native.precedes_iff native', same.below_iff same']
  · intro error h
    obtain ⟨mismatch, -, rfl⟩ := mapError_eq_error_iff.mp h
    exact ⟨mismatch, rfl⟩

/-- The widest integer that a measure holds exactly, beside the one below it, and the one above it
refused. -/
theorem exact_ofField_widest :
    ofField "score" .greaterThan (.int 9007199254740991) .decimal '!' =
      .ok ⟨.greater, .float ⟨0x433fffffffffffff⟩, none⟩ ∧
    ofField "score" .lessThan (.uint 9007199254740992) .decimal '!' =
      .ok ⟨.less, .float ⟨0x4340000000000000⟩, none⟩ ∧
    Value.Precedes (.float ⟨0x433fffffffffffff⟩) (.float ⟨0x4340000000000000⟩) ∧
    ¬ Accepts .decimal .lessThan (.int 9007199254740993) := by
  refine ⟨rfl, rfl, ?_, ?_⟩
  · obtain ⟨-, orderings, -⟩ :=
      exact_ofField "score" .greaterThan (.int 9007199254740991) .decimal '!'
    obtain ⟨-, order⟩ := orderings _ _ .greater rfl
    refine (order "score" .lessThan (.uint 9007199254740992) '!' _ _ .less rfl).mpr ?_
    rw [Value.below_iff rfl rfl]
    decide
  · intro accepts
    obtain ⟨accepted, -, -⟩ :=
      exact_ofField "score" .lessThan (.int 9007199254740993) .decimal '!'
    obtain ⟨comparison, h⟩ := accepted.mpr accepts
    cases h

end Comparison

end Criteria
