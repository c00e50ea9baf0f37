import Criteria.Proofs.Lists
import Criteria.Value.Printer
import Mathlib

/-!
# Literals of values

The literal of a value without unsigned numbers, floats and variants, `Value.Plain`, tells which
value it is. Its first character tells the kind, and its end is seen wherever it stands: that of a
list or a map by itself, that of a text unless a quote follows, that of an integer unless a digit
follows, `ValueKind.EndsBefore`. Commas, colons and closing brackets are neither, so the members of
a list or a map are read off one after the other, whatever the texts among them hold.
-/

namespace Criteria

namespace Value

/-! ## Integers -/

/-- The literal of an integer is a sign or a digit, and then digits. -/
theorem exists_cons_repr (n : Int) : ∃ c digits, n.repr.toList = c :: digits ∧
    (c = '-' ∨ c.isDigit) ∧ ∀ d ∈ digits, d.isDigit := by
  have isDigit {m : Nat} : ∀ d ∈ Nat.toDigits 10 m, d.isDigit :=
    fun _ => Nat.isDigit_of_mem_toDigits (by decide) (by decide)
  cases n with
  | ofNat m =>
    obtain ⟨c, digits, eq⟩ := List.exists_cons_of_ne_nil (Nat.toDigits_ne_nil (n := m) (b := 10))
    obtain ⟨first, others⟩ := List.forall_mem_cons.mp (eq ▸ isDigit)
    exact ⟨c, digits, Nat.toList_repr.trans eq, .inr first, others⟩
  | negSucc m => exact ⟨'-', Nat.toDigits 10 (m + 1), by simp [Int.repr], .inl rfl, isDigit⟩

/-- The literal of an integer ends where its digits do. -/
theorem repr_append_inj {m n : Int} {r s : List Char} (ends : ∀ c ∈ r.head?, ¬ c.isDigit)
    (ends' : ∀ c ∈ s.head?, ¬ c.isDigit) (h : m.repr.toList ++ r = n.repr.toList ++ s) :
    m = n ∧ r = s := by
  obtain ⟨c, digits, eq, -, all⟩ := exists_cons_repr m
  obtain ⟨c', digits', eq', -, all'⟩ := exists_cons_repr n
  rw [eq, eq', List.cons_append, List.cons_append] at h
  obtain ⟨rfl, rest⟩ := List.cons.inj h
  obtain ⟨rfl, rfl⟩ := append_inj_of_head? all all' ends ends' rest
  exact ⟨Int.repr_inj.mp (String.toList_inj.mp (eq.trans eq'.symm)), rfl⟩

/-! ## Texts -/

theorem doubled_cons (c : Char) (cs : List Char) :
    doubled (c :: cs) = c :: ((if c = '\'' then ['\''] else []) ++ doubled cs) := by
  by_cases quote : c = '\''
  · subst quote
    rfl
  · rw [if_neg quote, List.nil_append, doubled]
    exact quote

/-- The quote at the end of a text is none of the text's own, which are doubled. -/
theorem quote_cons_ne_doubled {c : Char} {cs r s : List Char} (single : ∀ c ∈ r.head?, c ≠ '\'') :
    '\'' :: r ≠ doubled (c :: cs) ++ s := by
  intro h
  rw [doubled_cons, List.cons_append] at h
  obtain ⟨rfl, rfl⟩ := List.cons.inj h
  exact single '\'' rfl rfl

/-- A text with its quotes doubled ends at the first quote that is not. -/
theorem doubled_append_inj {cs cs' r s : List Char} (single : ∀ c ∈ r.head?, c ≠ '\'')
    (single' : ∀ c ∈ s.head?, c ≠ '\'') (h : doubled cs ++ '\'' :: r = doubled cs' ++ '\'' :: s) :
    cs = cs' ∧ r = s := by
  induction cs generalizing cs' with
  | nil =>
    cases cs' with
    | nil => exact ⟨rfl, (List.cons.inj h).2⟩
    | cons c' cs' => exact absurd h (quote_cons_ne_doubled single)
  | cons c cs ih =>
    cases cs' with
    | nil => exact absurd h.symm (quote_cons_ne_doubled single')
    | cons c' cs' =>
      rw [doubled_cons, doubled_cons, List.cons_append, List.cons_append, List.append_assoc,
        List.append_assoc] at h
      obtain ⟨rfl, rest⟩ := List.cons.inj h
      obtain ⟨rfl, rfl⟩ := ih (List.append_cancel_left rest)
      exact ⟨rfl, rfl⟩

/-! ## Members and what stands between them -/

section Separated

variable {α : Type} {write : α → List Char} {closing : Char} {l m : List α} {r s : List Char}

/-- Members after another one, each with a comma and a space before it. -/
def following (write : α → List Char) (members : List α) : List Char :=
  members.flatMap fun a => ',' :: ' ' :: write a

/-- Members written one after the other, with a comma and a space between them. -/
def separated (write : α → List Char) : List α → List Char
  | [] => []
  | a :: rest => write a ++ following write rest

/-- Neither an integer nor a text goes on with the character. -/
def Separates (c : Char) : Prop := ¬ c.isDigit ∧ c ≠ '\''

instance : DecidablePred Separates := fun c =>
  inferInstanceAs (Decidable (¬ c.isDigit ∧ c ≠ '\''))

/-- Where something that separates stands after both, texts that begin with the members are equal
only if the members are. -/
def ToldApart (write : α → List Char) (a b : α) : Prop :=
  ∀ ⦃c d r s⦄, Separates c → Separates d → write a ++ c :: r = write b ++ d :: s →
    a = b ∧ c :: r = d :: s

/-- After a member comes a comma or the closing bracket. -/
theorem exists_cons_following (write : α → List Char) (separates : Separates closing)
    (members : List α) (r : List Char) :
    ∃ c rest, following write members ++ closing :: r = c :: rest ∧ Separates c := by
  cases members with
  | nil => exact ⟨closing, r, rfl, separates⟩
  | cons a rest => exact ⟨',', _, rfl, by decide⟩

theorem following_append_inj (separates : Separates closing) (ne : closing ≠ ',')
    (apart : ∀ a ∈ l, ∀ b ∈ m, ToldApart write a b)
    (h : following write l ++ closing :: r = following write m ++ closing :: s) :
    l = m ∧ r = s := by
  induction l generalizing m with
  | nil =>
    cases m with
    | nil => exact ⟨rfl, (List.cons.inj h).2⟩
    | cons b m => exact absurd (List.cons.inj h).1 ne
  | cons a l ih =>
    cases m with
    | nil => exact absurd (List.cons.inj h).1.symm ne
    | cons b m =>
      have texts : write a ++ (following write l ++ closing :: r) =
          write b ++ (following write m ++ closing :: s) := by
        simpa [following] using h
      obtain ⟨c, after, eq, first⟩ := exists_cons_following write separates l r
      obtain ⟨d, after', eq', first'⟩ := exists_cons_following write separates m s
      obtain ⟨head, others⟩ := List.forall_mem_cons.mp apart
      rw [eq, eq'] at texts
      obtain ⟨rfl, rest⟩ := head b List.mem_cons_self first first' texts
      rw [← eq, ← eq'] at rest
      have apart : ∀ a ∈ l, ∀ b ∈ m, ToldApart write a b :=
        fun a mem b mem' => others a mem b (List.mem_cons_of_mem _ mem')
      obtain ⟨rfl, rfl⟩ := ih apart rest
      exact ⟨rfl, rfl⟩

theorem cons_ne_separated {b : α} (opens : ∃ c ∈ (write b).head?, c ≠ closing) :
    closing :: r ≠ separated write (b :: m) ++ s := by
  obtain ⟨c, first, ne⟩ := opens
  obtain ⟨rest, eq⟩ := List.head?_eq_some_iff.mp first
  intro h
  rw [separated, eq] at h
  exact ne (List.cons.inj h).1.symm

/-- Members up to a closing bracket are told apart when each two of them are, and none of them
begins with that bracket. -/
theorem separated_append_inj (separates : Separates closing) (ne : closing ≠ ',')
    (apart : ∀ a ∈ l, ∀ b ∈ m, ToldApart write a b)
    (opens : ∀ a ∈ l, ∃ c ∈ (write a).head?, c ≠ closing)
    (opens' : ∀ b ∈ m, ∃ c ∈ (write b).head?, c ≠ closing)
    (h : separated write l ++ closing :: r = separated write m ++ closing :: s) :
    l = m ∧ r = s := by
  cases l with
  | nil =>
    cases m with
    | nil => exact ⟨rfl, (List.cons.inj h).2⟩
    | cons b m => exact absurd h (cons_ne_separated (opens' b List.mem_cons_self))
  | cons a l =>
    cases m with
    | nil => exact absurd h.symm (cons_ne_separated (opens a List.mem_cons_self))
    | cons b m => exact following_append_inj separates ne apart (congrArg (',' :: ' ' :: ·) h)

end Separated

theorem toList_itemsLiteral (items : List Value) :
    (itemsLiteral items).toList = separated (·.literal.toList) items := by
  induction items with
  | nil => rfl
  | cons v rest ih =>
    cases rest with
    | nil => simp [itemsLiteral, separated, following]
    | cons w rest => simp [itemsLiteral, ih, separated, following]

/-- An entry of a map: its key, a colon and a space, and its value. -/
def entryText (entry : Value × Value) : List Char :=
  entry.1.literal.toList ++ ':' :: ' ' :: entry.2.literal.toList

theorem toList_entriesLiteral (entries : List (Value × Value)) :
    (entriesLiteral entries).toList = separated entryText entries := by
  induction entries with
  | nil => rfl
  | cons e rest ih =>
    cases rest with
    | nil => simp [entriesLiteral, separated, following, entryText]
    | cons w rest => simp [entriesLiteral, ih, separated, following, entryText]

/-! ## Whole literals -/

/-- A value that contains no unsigned number, float or variant, at any depth. -/
inductive Plain : Value → Prop
  | null : Plain .null
  | bool (b : Bool) : Plain (.bool b)
  | int (n : Int64) : Plain (.int n)
  | text (s : String) : Plain (.text s)
  | list {items : List Value} (plain : ∀ v ∈ items, v.Plain) : Plain (.list items)
  | map {entries : List (Value × Value)} (keys : ∀ e ∈ entries, e.1.Plain)
      (values : ∀ e ∈ entries, e.2.Plain) : Plain (.map entries)

end Value

namespace ValueKind

/-- The kind of the literals that begin with a character. -/
def opened? (c : Char) : Option ValueKind :=
  if c = '-' ∨ c.isDigit then some .int
  else match c with
    | 'N' => some .null
    | 't' | 'f' => some .bool
    | '\'' => some .text
    | '(' => some .list
    | '\x7b' => some .map
    | _ => none

/-- What can stand after a literal of the kind, so that its end is seen: no digit after an integer,
and no quote after a text. -/
def EndsBefore (rest : List Char) : ValueKind → Prop
  | .int => ∀ c ∈ rest.head?, ¬ c.isDigit
  | .text => ∀ c ∈ rest.head?, c ≠ '\''
  | _ => True

theorem endsBefore_nil (kind : ValueKind) : kind.EndsBefore [] := by
  cases kind with
  | int | text => exact nofun
  | _ => trivial

theorem endsBefore_cons {c : Char} (separates : Value.Separates c) (rest : List Char)
    (kind : ValueKind) : kind.EndsBefore (c :: rest) := by
  cases kind with
  | int =>
    rintro _ ⟨⟩
    exact separates.1
  | text =>
    rintro _ ⟨⟩
    exact separates.2
  | _ => trivial

end ValueKind

namespace Value

variable {v w : Value} {r s : List Char}

/-- The first character of a literal tells its kind. -/
theorem Plain.exists_opened (plain : v.Plain) :
    ∃ c ∈ v.literal.toList.head?, ValueKind.opened? c = some v.kind := by
  cases plain with
  | null => exact ⟨'N', rfl, rfl⟩
  | bool b =>
    cases b with
    | false => exact ⟨'f', rfl, rfl⟩
    | true => exact ⟨'t', rfl, rfl⟩
  | int n =>
    obtain ⟨c, digits, eq, first, -⟩ := exists_cons_repr n.toInt
    refine ⟨c, ?_, if_pos first⟩
    rw [literal, eq]
    rfl
  | text s => exact ⟨'\'', by simp [literal], rfl⟩
  | list => exact ⟨'(', by simp [literal], rfl⟩
  | map => exact ⟨'\x7b', by simp [literal], rfl⟩

theorem Plain.exists_head?_ne (plain : v.Plain) {closing : Char}
    (closes : ValueKind.opened? closing = none) : ∃ c ∈ v.literal.toList.head?, c ≠ closing := by
  obtain ⟨c, first, opened⟩ := plain.exists_opened
  refine ⟨c, first, ?_⟩
  rintro rfl
  cases opened.symm.trans closes

theorem exists_head?_entryText_ne {e : Value × Value} (plain : e.1.Plain) {closing : Char}
    (closes : ValueKind.opened? closing = none) : ∃ c ∈ (entryText e).head?, c ≠ closing := by
  obtain ⟨c, first, ne⟩ := plain.exists_head?_ne closes
  refine ⟨c, ?_, ne⟩
  rw [entryText, List.head?_append, first]
  rfl

/-- Literals that begin one text are of one kind. -/
theorem Plain.kind_eq (plain : v.Plain) (plain' : w.Plain)
    (h : v.literal.toList ++ r = w.literal.toList ++ s) : v.kind = w.kind := by
  obtain ⟨c, first, opened⟩ := plain.exists_opened
  obtain ⟨d, first', opened'⟩ := plain'.exists_opened
  have same : c = d := by
    have heads := congrArg List.head? h
    rw [List.head?_append, List.head?_append, first, first'] at heads
    exact Option.some.inj heads
  subst same
  exact Option.some.inj (opened.symm.trans opened')

theorem toldApart_literal (inj : ∀ r s, v.kind.EndsBefore r → w.kind.EndsBefore s →
    v.literal.toList ++ r = w.literal.toList ++ s → v = w ∧ r = s) :
    ToldApart (·.literal.toList) v w := by
  intro c d r s first first' h
  exact inj (c :: r) (d :: s) (ValueKind.endsBefore_cons first r v.kind)
    (ValueKind.endsBefore_cons first' s w.kind) h

theorem toldApart_entryText {e e' : Value × Value}
    (keys : ToldApart (·.literal.toList) e.1 e'.1)
    (values : ToldApart (·.literal.toList) e.2 e'.2) : ToldApart entryText e e' := by
  intro c d r s first first' h
  have colon : Separates ':' := by decide
  rw [entryText, entryText, List.append_assoc, List.append_assoc] at h
  obtain ⟨key, rest⟩ := keys colon colon h
  obtain ⟨value, rest⟩ := values first first' (List.cons.inj (List.cons.inj rest).2).2
  exact ⟨Prod.ext key value, rest⟩

/-! ### Literals of one kind -/

theorem bool_append_inj {b b' : Bool}
    (h : (bool b).literal.toList ++ r = (bool b').literal.toList ++ s) : b = b' ∧ r = s := by
  obtain rfl : b = b' := by
    cases b with
    | false =>
      cases b' with
      | false => rfl
      | true => exact absurd (List.cons.inj h).1 (by decide)
    | true =>
      cases b' with
      | false => exact absurd (List.cons.inj h).1 (by decide)
      | true => rfl
  exact ⟨rfl, List.append_cancel_left h⟩

theorem int_append_inj {n n' : Int64} (ends : ∀ c ∈ r.head?, ¬ c.isDigit)
    (ends' : ∀ c ∈ s.head?, ¬ c.isDigit)
    (h : (int n).literal.toList ++ r = (int n').literal.toList ++ s) : n = n' ∧ r = s := by
  obtain ⟨eq, rest⟩ := repr_append_inj ends ends' h
  exact ⟨Int64.toInt_inj.mp eq, rest⟩

theorem text_append_inj {t t' : String} (single : ∀ c ∈ r.head?, c ≠ '\'')
    (single' : ∀ c ∈ s.head?, c ≠ '\'')
    (h : (text t).literal.toList ++ r = (text t').literal.toList ++ s) : t = t' ∧ r = s := by
  have quoted : doubled t.toList ++ '\'' :: r = doubled t'.toList ++ '\'' :: s := by
    simpa [literal] using h
  obtain ⟨eq, rest⟩ := doubled_append_inj single single' quoted
  exact ⟨String.toList_inj.mp eq, rest⟩

/-- A list whose items are told apart ends with its bracket. -/
theorem list_append_inj {items items' : List Value} (plain : ∀ v ∈ items, v.Plain)
    (plain' : ∀ w ∈ items', w.Plain)
    (apart : ∀ v ∈ items, ∀ w ∈ items', ToldApart (·.literal.toList) v w)
    (h : (list items).literal.toList ++ r = (list items').literal.toList ++ s) :
    items = items' ∧ r = s := by
  have inside : separated (·.literal.toList) items ++ ')' :: r =
      separated (·.literal.toList) items' ++ ')' :: s := by
    simpa [literal, toList_itemsLiteral] using h
  exact separated_append_inj (by decide) (by decide) apart
    (fun v mem => (plain v mem).exists_head?_ne rfl)
    (fun w mem => (plain' w mem).exists_head?_ne rfl) inside

/-- A map whose entries are told apart ends with its bracket. -/
theorem map_append_inj {entries entries' : List (Value × Value)}
    (keys : ∀ e ∈ entries, e.1.Plain) (keys' : ∀ e ∈ entries', e.1.Plain)
    (apart : ∀ e ∈ entries, ∀ e' ∈ entries', ToldApart entryText e e')
    (h : (map entries).literal.toList ++ r = (map entries').literal.toList ++ s) :
    entries = entries' ∧ r = s := by
  have inside : separated entryText entries ++ '\x7d' :: r =
      separated entryText entries' ++ '\x7d' :: s := by
    simpa [literal, toList_entriesLiteral] using h
  exact separated_append_inj (by decide) (by decide) apart
    (fun e mem => exists_head?_entryText_ne (keys e mem) rfl)
    (fun e mem => exists_head?_entryText_ne (keys' e mem) rfl) inside

/-! ### Literals of any kind -/

/-- The literal of a plain value tells the value, and where the literal ends. -/
theorem Plain.literal_append_inj (plain : v.Plain) (plain' : w.Plain)
    (ends : v.kind.EndsBefore r) (ends' : w.kind.EndsBefore s)
    (h : v.literal.toList ++ r = w.literal.toList ++ s) : v = w ∧ r = s := by
  -- on the first value; the second is of the same kind, since they begin with one character
  induction plain generalizing w r s with
  | null =>
    have same := Plain.null.kind_eq plain' h
    cases plain' with
    | null => exact ⟨rfl, List.append_cancel_left h⟩
    | _ => cases same
  | bool b =>
    have same := (Plain.bool b).kind_eq plain' h
    cases plain' with
    | bool b' =>
      obtain ⟨rfl, rest⟩ := bool_append_inj h
      exact ⟨rfl, rest⟩
    | _ => cases same
  | int n =>
    have same := (Plain.int n).kind_eq plain' h
    cases plain' with
    | int n' =>
      obtain ⟨rfl, rest⟩ := int_append_inj ends ends' h
      exact ⟨rfl, rest⟩
    | _ => cases same
  | text t =>
    have same := (Plain.text t).kind_eq plain' h
    cases plain' with
    | text t' =>
      obtain ⟨rfl, rest⟩ := text_append_inj ends ends' h
      exact ⟨rfl, rest⟩
    | _ => cases same
  | @list items plain ih =>
    have same := (Plain.list plain).kind_eq plain' h
    cases plain' with
    | list plain' =>
      have apart : ∀ v ∈ items, ∀ w ∈ _, ToldApart (·.literal.toList) v w :=
        fun v mem w mem' => toldApart_literal fun _ _ => ih v mem (plain' w mem')
      obtain ⟨rfl, rest⟩ := list_append_inj plain plain' apart h
      exact ⟨rfl, rest⟩
    | _ => cases same
  | @map entries keys values ihKey ihValue =>
    have same := (Plain.map keys values).kind_eq plain' h
    cases plain' with
    | map keys' values' =>
      have apart : ∀ e ∈ entries, ∀ e' ∈ _, ToldApart entryText e e' :=
        fun e mem e' mem' =>
          toldApart_entryText (toldApart_literal fun _ _ => ihKey e mem (keys' e' mem'))
            (toldApart_literal fun _ _ => ihValue e mem (values' e' mem'))
      obtain ⟨rfl, rest⟩ := map_append_inj keys keys' apart h
      exact ⟨rfl, rest⟩
    | _ => cases same

theorem Plain.append_eq_append_iff {rest rest' : String} (plain : v.Plain) (plain' : w.Plain)
    (ends : v.kind.EndsBefore rest.toList) (ends' : w.kind.EndsBefore rest'.toList) :
    v.literal ++ rest = w.literal ++ rest' ↔ v = w ∧ rest = rest' := by
  constructor
  · intro h
    have texts : v.literal.toList ++ rest.toList = w.literal.toList ++ rest'.toList := by
      rw [← String.toList_append, h, String.toList_append]
    obtain ⟨value, same⟩ := plain.literal_append_inj plain' ends ends' texts
    exact ⟨value, String.toList_inj.mp same⟩
  · rintro ⟨rfl, rfl⟩
    rfl

/-- Plain values are equal when their literals are. -/
theorem Plain.literal_inj (plain : v.Plain) (plain' : w.Plain) : v.literal = w.literal ↔ v = w := by
  refine ⟨fun h => ?_, congrArg literal⟩
  exact (plain.literal_append_inj plain' (ValueKind.endsBefore_nil _) (ValueKind.endsBefore_nil _)
    (congrArg (·.toList ++ []) h)).1

/-- Among unsigned numbers it is not so. -/
example : (Value.int 1).literal = (Value.uint 1).literal := rfl

/-! ## Equality -/

theorem sameItems_iff {items others : List Value}
    (iff : ∀ v ∈ items, ∀ w, v == w ↔ v = w) : sameItems items others ↔ items = others := by
  induction items generalizing others with
  | nil => cases others <;> simp [sameItems]
  | cons v items ih =>
    obtain ⟨head, tail⟩ := List.forall_mem_cons.mp iff
    cases others with
    | nil => simp [sameItems]
    | cons w others =>
      have first : v.same w = true ↔ v = w := head w
      rw [sameItems, Bool.and_eq_true, first, ih tail, List.cons.injEq]

theorem sameEntries_iff {entries others : List (Value × Value)}
    (keys : ∀ e ∈ entries, ∀ w, e.1 == w ↔ e.1 = w)
    (values : ∀ e ∈ entries, ∀ w, e.2 == w ↔ e.2 = w) :
    sameEntries entries others ↔ entries = others := by
  induction entries generalizing others with
  | nil => cases others <;> simp [sameEntries]
  | cons e entries ih =>
    obtain ⟨key, value⟩ := e
    obtain ⟨firstKey, keys⟩ := List.forall_mem_cons.mp keys
    obtain ⟨firstValue, values⟩ := List.forall_mem_cons.mp values
    cases others with
    | nil => simp [sameEntries]
    | cons e others =>
      obtain ⟨key', value'⟩ := e
      have sameKey : key.same key' = true ↔ key = key' := firstKey key'
      have sameValue : value.same value' = true ↔ value = value' := firstValue value'
      rw [sameEntries, Bool.and_eq_true, Bool.and_eq_true, sameKey, sameValue, ih keys values,
        List.cons.injEq, Prod.mk.injEq]

/-- Without floats among them, values are equal as values exactly when they are the same. -/
theorem Plain.beq_iff (plain : v.Plain) (w : Value) : v == w ↔ v = w := by
  change v.same w = true ↔ v = w
  induction plain generalizing w with
  | null => cases w <;> simp [same]
  | bool b => cases w <;> simp [same]
  | int n => cases w <;> simp [same]
  | text s => cases w <;> simp [same]
  | list _ ih =>
    cases w with
    | list others => rw [same, sameItems_iff ih, Value.list.injEq]
    | _ => simp [same]
  | map _ _ keys values =>
    cases w with
    | map others => rw [same, sameEntries_iff keys values, Value.map.injEq]
    | _ => simp [same]

end Value

end Criteria
