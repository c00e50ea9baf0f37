/-!
# Dictionaries in the order of their keys

A dictionary is kept as the list of its entries by increasing key, code point by code point. There
is one such list for each content, so two dictionaries are equal when they hold the same entries.
-/

namespace Criteria

/-- Entries with text keys, each key once and in increasing order. -/
@[ext]
structure Dictionary (α : Type) where
  entries : List (String × α)
  sorted : entries.Pairwise fun a b => a.1 < b.1
deriving DecidableEq

namespace Dictionary

variable {α : Type}

/-- The dictionary without entries. -/
def empty : Dictionary α := ⟨[], .nil⟩

instance : EmptyCollection (Dictionary α) := ⟨empty⟩
instance : Inhabited (Dictionary α) := ⟨∅⟩

/-- The value of a key. -/
def get? (d : Dictionary α) (key : String) : Option α := d.entries.lookup key

def contains (d : Dictionary α) (key : String) : Bool := (d.get? key).isSome

def size (d : Dictionary α) : Nat := d.entries.length

def isEmpty (d : Dictionary α) : Bool := d.entries.isEmpty

/-- The keys in increasing order. -/
def keys (d : Dictionary α) : List String := d.entries.map (·.1)

/-- The values in the order of their keys. -/
def values (d : Dictionary α) : List α := d.entries.map (·.2)

/-! ## Insertion -/

/-- Puts an entry at its place, in the stead of the one that has its key. -/
def place (key : String) (value : α) : List (String × α) → List (String × α)
  | [] => [(key, value)]
  | entry :: rest =>
    if key < entry.1 then (key, value) :: entry :: rest
    else if key = entry.1 then (key, value) :: rest
    else entry :: place key value rest

theorem eq_or_mem_of_mem_place {key : String} {value : α} {entries : List (String × α)}
    {entry : String × α} (h : entry ∈ place key value entries) :
    entry = (key, value) ∨ entry ∈ entries := by
  induction entries with
  | nil => simp_all [place]
  | cons head rest ih =>
    unfold place at h
    split at h
    · exact List.mem_cons.mp h
    · split at h
      · exact (List.mem_cons.mp h).imp_right (List.mem_cons_of_mem _)
      · rcases List.mem_cons.mp h with rfl | h
        · exact .inr List.mem_cons_self
        · exact (ih h).imp_right (List.mem_cons_of_mem _)

/-- Of two keys that differ, one comes first. -/
theorem key_lt_of_not_lt {a b : String} (h : ¬ a < b) (ne : a ≠ b) : b < a :=
  Std.lt_of_le_of_ne (String.not_lt.mp h) (Ne.symm ne)

theorem pairwise_place {key : String} {value : α} {entries : List (String × α)}
    (h : entries.Pairwise fun a b => a.1 < b.1) :
    (place key value entries).Pairwise fun a b => a.1 < b.1 := by
  induction entries with
  | nil => simp [place]
  | cons head rest ih =>
    obtain ⟨above, sorted⟩ := List.pairwise_cons.mp h
    unfold place
    split
    case isTrue before =>
      refine List.pairwise_cons.mpr ⟨fun entry mem => ?_, h⟩
      rcases List.mem_cons.mp mem with rfl | mem
      · exact before
      · exact String.lt_trans before (above _ mem)
    case isFalse notBefore =>
      split
      case isTrue equal => exact List.pairwise_cons.mpr ⟨fun entry mem => equal ▸ above _ mem, sorted⟩
      case isFalse notEqual =>
        refine List.pairwise_cons.mpr ⟨fun entry mem => ?_, ih sorted⟩
        rcases eq_or_mem_of_mem_place mem with rfl | mem
        · exact key_lt_of_not_lt notBefore notEqual
        · exact above _ mem

/-- The dictionary in which the key has the value. -/
def insert (d : Dictionary α) (key : String) (value : α) : Dictionary α :=
  ⟨place key value d.entries, pairwise_place d.sorted⟩

theorem eq_or_mem_of_mem_insert {d : Dictionary α} {key : String} {value : α}
    {entry : String × α} (h : entry ∈ (d.insert key value).entries) :
    entry = (key, value) ∨ entry ∈ d.entries :=
  eq_or_mem_of_mem_place h

/-- The entries put in one after the other, so that the last one of a key counts. -/
def ofList (entries : List (String × α)) : Dictionary α :=
  entries.foldl (fun d entry => d.insert entry.1 entry.2) ∅

/-! ## Lookup after insertion -/

@[simp]
theorem get?_empty (key : String) : (∅ : Dictionary α).get? key = none := rfl

theorem lookup_entry {κ : Type} [DecidableEq κ] (entry : κ × α) (rest : List (κ × α)) (key : κ) :
    (entry :: rest).lookup key = if key = entry.1 then some entry.2 else rest.lookup key := by
  obtain ⟨own, value⟩ := entry
  rw [List.lookup_cons]
  by_cases h : key = own
  · simp [h]
  · have : (key == own) = false := by simpa using h
    simp [h, this]

theorem lookup_place (key : String) (value : α) (entries : List (String × α)) (other : String) :
    (place key value entries).lookup other =
      if other = key then some value else entries.lookup other := by
  induction entries with
  | nil => simp [place, lookup_entry]
  | cons head rest ih =>
    unfold place
    split
    · simp only [lookup_entry]
    · split
      case isTrue equal =>
        rw [lookup_entry, lookup_entry]
        by_cases h : other = key
        · simp [h]
        · simp [h, equal ▸ h]
      case isFalse notEqual =>
        rw [lookup_entry, lookup_entry, ih]
        by_cases h : other = key
        · simp [h, notEqual]
        · simp [h]

/-- The inserted key has its value, and every other key keeps its own. -/
@[simp, grind =]
theorem get?_insert (d : Dictionary α) (key : String) (value : α) (other : String) :
    (d.insert key value).get? other = if other = key then some value else d.get? other :=
  lookup_place key value d.entries other

theorem get?_foldl_insert (d : Dictionary α) (entries : List (String × α)) (key : String) :
    (entries.foldl (fun d entry => d.insert entry.1 entry.2) d).get? key =
      (entries.reverse.lookup key).or (d.get? key) := by
  induction entries generalizing d with
  | nil => rfl
  | cons head rest ih =>
    rw [List.foldl_cons, ih, get?_insert, List.reverse_cons, List.lookup_append, lookup_entry,
      List.lookup_nil, Option.or_assoc]
    split <;> rfl

/-- Of the entries put in for a key, the last one counts. -/
theorem get?_ofList (entries : List (String × α)) (key : String) :
    (ofList entries).get? key = entries.reverse.lookup key := by
  rw [ofList, get?_foldl_insert, get?_empty, Option.or_none]

theorem mem_of_lookup {κ : Type} [DecidableEq κ] {entries : List (κ × α)} {key : κ} {value : α}
    (h : entries.lookup key = some value) : (key, value) ∈ entries := by
  obtain ⟨before, after, rfl, -⟩ := List.lookup_eq_some_iff.mp h
  exact List.mem_append_right _ List.mem_cons_self

theorem mem_entries_of_get? {d : Dictionary α} {key : String} {value : α}
    (h : d.get? key = some value) : (key, value) ∈ d.entries :=
  mem_of_lookup h

/-! ## Equality -/

theorem lookup_eq_none_of_lt {key : String} {entries : List (String × α)}
    (h : ∀ entry ∈ entries, key < entry.1) : entries.lookup key = none := by
  induction entries with
  | nil => rfl
  | cons head rest ih =>
    rw [lookup_entry, if_neg fun equal => String.lt_irrefl _ (equal ▸ h head List.mem_cons_self)]
    exact ih fun entry mem => h entry (List.mem_cons_of_mem _ mem)

/-- A list does not begin below a sorted list in which the same keys are found. -/
theorem not_lt_of_lookup_eq {a b : String × α} {l m : List (String × α)}
    (sorted : (b :: m).Pairwise fun a b => a.1 < b.1)
    (same : ∀ key, (a :: l).lookup key = (b :: m).lookup key) : ¬ a.1 < b.1 := by
  intro before
  have absent : (b :: m).lookup a.1 = none := lookup_eq_none_of_lt fun entry mem => by
    rcases List.mem_cons.mp mem with rfl | mem
    · exact before
    · exact String.lt_trans before ((List.pairwise_cons.mp sorted).1 _ mem)
  simp [← same, lookup_entry] at absent

theorem eq_of_lookup_eq {l m : List (String × α)}
    (sorted : l.Pairwise fun a b => a.1 < b.1) (sorted' : m.Pairwise fun a b => a.1 < b.1)
    (same : ∀ key, l.lookup key = m.lookup key) : l = m := by
  induction l generalizing m with
  | nil =>
    cases m with
    | nil => rfl
    | cons b m => simpa [lookup_entry] using same b.1
  | cons a l ih =>
    cases m with
    | nil => simpa [lookup_entry] using same a.1
    | cons b m =>
      have keys : a.1 = b.1 := String.le_antisymm
        (String.not_lt.mp (not_lt_of_lookup_eq sorted fun key => (same key).symm))
        (String.not_lt.mp (not_lt_of_lookup_eq sorted' same))
      have values : a.2 = b.2 := by simpa [lookup_entry, keys] using same a.1
      obtain ⟨above, sorted⟩ := List.pairwise_cons.mp sorted
      obtain ⟨above', sorted'⟩ := List.pairwise_cons.mp sorted'
      rw [Prod.ext keys values, ih sorted sorted' fun key => ?_]
      by_cases h : key = a.1
      · subst h
        rw [lookup_eq_none_of_lt above, keys, lookup_eq_none_of_lt above']
      · simpa [lookup_entry, h, keys ▸ h] using same key

/-- Dictionaries are equal when every key has the same value in both. -/
theorem ext_get? {d e : Dictionary α} (h : ∀ key, d.get? key = e.get? key) : d = e :=
  Dictionary.ext (eq_of_lookup_eq d.sorted e.sorted h)

/-- Looked through from the end, the entries of a dictionary show the same, as no key is there
twice. -/
theorem lookup_reverse_entries (d : Dictionary α) (key : String) :
    d.entries.reverse.lookup key = d.get? key := by
  obtain ⟨entries, sorted⟩ := d
  change entries.reverse.lookup key = entries.lookup key
  induction entries with
  | nil => rfl
  | cons head rest ih =>
    obtain ⟨above, sorted⟩ := List.pairwise_cons.mp sorted
    rw [List.reverse_cons, List.lookup_append, ih sorted, lookup_entry, lookup_entry,
      List.lookup_nil]
    by_cases same : key = head.1
    · have later : rest.lookup key = none :=
        lookup_eq_none_of_lt fun entry mem => same ▸ above entry mem
      rw [later, Option.none_or]
    · rw [if_neg same, if_neg same, Option.or_none]

end Dictionary

end Criteria
