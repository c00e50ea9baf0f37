import Mathlib.Data.List.Forall2
import Mathlib.Data.List.Induction

/-!
# Lists without repetitions, put together and side by side

What first occurrences do when a list goes on or is put together, where a list put together from two
is cut, and what lists have in common that are related member by member.
-/

namespace Criteria

/-! ## Lists without repetitions -/

section EraseDups

variable {α β : Type} [BEq α] [LawfulBEq α] [BEq β] [LawfulBEq β] {l : List α} {a : α}

theorem eraseDups_concat_of_mem (mem : a ∈ l) : (l ++ [a]).eraseDups = l.eraseDups := by
  have gone : [a].removeAll l = [] := List.filter_cons_of_neg (by simpa using mem)
  rw [List.eraseDups_append, gone, List.eraseDups_nil, List.append_nil]

theorem eraseDups_concat_of_not_mem (fresh : a ∉ l) :
    (l ++ [a]).eraseDups = l.eraseDups ++ [a] := by
  have kept : [a].removeAll l = [a] := List.filter_cons_of_pos (by simpa using fresh)
  rw [List.eraseDups_append, kept]
  rfl

/-- A function that tells the members of a list apart keeps their first occurrences. -/
theorem eraseDups_map {f : α → β} (inj : ∀ a ∈ l, ∀ b ∈ l, f a = f b → a = b) :
    (l.map f).eraseDups = l.eraseDups.map f := by
  induction l using List.reverseRecOn with
  | nil => rfl
  | append_singleton l a ih =>
    have init := ih fun b mem c mem' =>
      inj b (List.mem_append_left _ mem) c (List.mem_append_left _ mem')
    rw [List.map_append, List.map_singleton]
    by_cases mem : a ∈ l
    · rw [eraseDups_concat_of_mem (List.mem_map_of_mem mem), eraseDups_concat_of_mem mem, init]
    · have fresh : f a ∉ l.map f := by
        intro old
        obtain ⟨b, mem', same⟩ := List.mem_map.mp old
        have eq := inj b (List.mem_append_left _ mem') a List.mem_concat_self same
        exact mem (eq ▸ mem')
      rw [eraseDups_concat_of_not_mem fresh, eraseDups_concat_of_not_mem mem, init,
        List.map_append, List.map_singleton]

end EraseDups

/-! ## Lists put together -/

/-- The first member with a property is found alike in lists put together from parts in which it is
found alike. -/
theorem find?_flatMap_congr {α β : Type} {l : List α} {f g : α → List β} {p : β → Bool}
    (h : ∀ a ∈ l, (f a).find? p = (g a).find? p) :
    (l.flatMap f).find? p = (l.flatMap g).find? p := by
  induction l with
  | nil => rfl
  | cons a l ih =>
    obtain ⟨head, tail⟩ := List.forall_mem_cons.mp h
    rw [List.flatMap_cons, List.flatMap_cons, List.find?_append, List.find?_append, head, ih tail]

/-- A list put together is cut at its first member without a property, when all members of the first
part have it and the first one of the second part has not. -/
theorem append_inj_of_head? {α : Type} {p : α → Bool} {l l' m m' : List α} (all : ∀ a ∈ l, p a)
    (all' : ∀ a ∈ l', p a) (ends : ∀ a ∈ m.head?, ¬ p a) (ends' : ∀ a ∈ m'.head?, ¬ p a)
    (h : l ++ m = l' ++ m') : l = l' ∧ m = m' := by
  have cut {l m : List α} (all : ∀ a ∈ l, p a) (ends : ∀ a ∈ m.head?, ¬ p a) :
      (l ++ m).takeWhile p = l := by
    have none : m.takeWhile p = [] := by
      cases m with
      | nil => rfl
      | cons a m => exact List.takeWhile_cons_of_neg (ends a rfl)
    rw [List.takeWhile_append_of_pos all, none, List.append_nil]
  obtain rfl : l = l' := by rw [← cut all ends, h, cut all' ends']
  exact ⟨rfl, List.append_cancel_left h⟩

/-! ## Lists side by side -/

section Forall₂

variable {α β γ δ : Type} {R R' : α → β → Prop} {S : β → γ → Prop} {l : List α} {m m' : List β}

theorem exists_mem_left_of_forall₂ (h : List.Forall₂ R l m) {a : α} (mem : a ∈ l) :
    ∃ b ∈ m, R a b := by
  induction h with
  | nil => cases mem
  | cons head _ ih =>
    rcases List.mem_cons.mp mem with rfl | mem
    · exact ⟨_, List.mem_cons_self, head⟩
    · obtain ⟨b, mem', rel⟩ := ih mem
      exact ⟨b, List.mem_cons_of_mem _ mem', rel⟩

theorem exists_mem_right_of_forall₂ (h : List.Forall₂ R l m) {b : β} (mem : b ∈ m) :
    ∃ a ∈ l, R a b := exists_mem_left_of_forall₂ h.flip mem

theorem exists_getElem?_of_forall₂ (h : List.Forall₂ R l m) {i : Nat} {a : α}
    (at_i : l[i]? = some a) : ∃ b, m[i]? = some b ∧ R a b := by
  induction h generalizing i with
  | nil => cases at_i
  | cons head _ ih =>
    cases i with
    | zero =>
      obtain rfl := Option.some.inj at_i
      exact ⟨_, rfl, head⟩
    | succ i => exact ih at_i

/-- Members related to those of another list by a function are its values there. -/
theorem eq_map_of_forall₂ {f : α → β} (h : List.Forall₂ (fun a b => b = f a) l m) :
    m = l.map f := by
  induction h with
  | nil => rfl
  | cons head _ ih => rw [List.map_cons, head, ih]

/-- Lists that are related to one list member by member have the same values of a function when the
members of that list allow it. -/
theorem map_eq_map_iff_of_forall₂ {P : α → Prop} {f : β → γ} (h : List.Forall₂ R l m)
    (h' : List.Forall₂ R' l m') (same : ∀ a b b', R a b → R' a b' → (f b = f b' ↔ P a)) :
    m.map f = m'.map f ↔ ∀ a ∈ l, P a := by
  induction h generalizing m' with
  | nil =>
    cases h' with
    | nil => simp
  | cons head _ ih =>
    cases h' with
    | cons head' tail' =>
      rw [List.map_cons, List.map_cons, List.cons.injEq, same _ _ _ head head', ih tail',
        List.forall_mem_cons]

theorem map_zipWith_left {f : α → β → γ} {g : γ → α} (left : ∀ a b, g (f a b) = a)
    (le : l.length ≤ m.length) : (List.zipWith f l m).map g = l := by
  rw [List.map_zipWith]
  simp only [left]
  rw [← List.map_uncurry_zip_eq_zipWith]
  exact List.map_fst_zip le

/-- Lists related member by member to a list between them are related through it. -/
theorem forall₂_comp {n : List γ} (h : List.Forall₂ R l m) (h' : List.Forall₂ S m n) :
    List.Forall₂ (fun a c => ∃ b, R a b ∧ S b c) l n := by
  induction h generalizing n with
  | nil =>
    cases h' with
    | nil => exact .nil
  | cons head _ ih =>
    cases h' with
    | cons head' tail' => exact .cons ⟨_, head, head'⟩ (ih tail')

/-- Lists related member by member to a list between them, put together. -/
theorem forall₂_zipWith {f : γ → α → δ} {n : List γ} (h : List.Forall₂ R l m)
    (h' : List.Forall₂ S m n) :
    List.Forall₂ (fun a d => ∃ b c, R a b ∧ S b c ∧ d = f c a) l (List.zipWith f n l) := by
  induction h generalizing n with
  | nil =>
    cases h' with
    | nil => exact .nil
  | cons head _ ih =>
    cases h' with
    | cons head' tail' => exact .cons ⟨_, _, head, head', rfl⟩ (ih tail')

end Forall₂

end Criteria
