import Mathlib.Data.List.Forall2

/-!
# Computations that end with a value or an error

How `Except` computes, and what it takes for one to end with a value: each step has to, and of a
list each member. It ends with an error when the first step, or the first member, that does so ends
with it.
-/

namespace Criteria

variable {ε δ α β : Type}

@[simp] theorem ok_bind (a : α) (f : α → Except ε β) : (Except.ok a >>= f) = f a := rfl

@[simp] theorem error_bind (e : ε) (f : α → Except ε β) :
    (Except.error e >>= f) = .error e := rfl

@[simp] theorem map_ok (f : α → β) (a : α) : (Except.ok a : Except ε α).map f = .ok (f a) := rfl

@[simp] theorem map_error (f : α → β) (e : ε) :
    (Except.error e : Except ε α).map f = .error e := rfl

@[simp] theorem mapError_ok (wrap : ε → δ) (a : α) : (Except.ok a).mapError wrap = .ok a := rfl

@[simp] theorem mapError_error (wrap : ε → δ) (e : ε) :
    (Except.error e : Except ε α).mapError wrap = .error (wrap e) := rfl

theorem bind_eq_ok_iff {x : Except ε α} {f : α → Except ε β} {b : β} :
    x >>= f = .ok b ↔ ∃ a, x = .ok a ∧ f a = .ok b := by
  cases x with
  | error e => simp
  | ok a => simp

theorem mapError_eq_ok_iff {wrap : ε → δ} {x : Except ε α} {a : α} :
    x.mapError wrap = .ok a ↔ x = .ok a := by
  cases x with
  | error e => simp
  | ok b => simp

theorem bind_eq_error_iff {x : Except ε α} {f : α → Except ε β} {e : ε} :
    x >>= f = .error e ↔ x = .error e ∨ ∃ a, x = .ok a ∧ f a = .error e := by
  cases x with
  | error e => simp
  | ok a => simp

theorem mapError_eq_error_iff {wrap : ε → δ} {x : Except ε α} {d : δ} :
    x.mapError wrap = .error d ↔ ∃ e, x = .error e ∧ d = wrap e := by
  cases x with
  | error e => simp [eq_comm]
  | ok a => simp

/-- A list of computations ends with values exactly when each of them does. -/
theorem mapM_eq_ok_iff {f : α → Except ε β} {xs : List α} {ys : List β} :
    xs.mapM f = .ok ys ↔ List.Forall₂ (fun x y => f x = .ok y) xs ys := by
  induction xs generalizing ys with
  | nil =>
    constructor
    · intro h
      obtain rfl := Except.ok.inj h
      exact .nil
    · rintro ⟨⟩
      rfl
  | cons x rest ih =>
    rw [List.mapM_cons, List.forall₂_cons_left_iff, bind_eq_ok_iff]
    constructor
    · rintro ⟨y, first, h⟩
      obtain ⟨ys, others, eq⟩ := bind_eq_ok_iff.mp h
      exact ⟨y, ys, first, ih.mp others, (Except.ok.inj eq).symm⟩
    · rintro ⟨y, ys, first, others, rfl⟩
      exact ⟨y, first, bind_eq_ok_iff.mpr ⟨ys, ih.mpr others, rfl⟩⟩

theorem exists_mapM_eq_ok_iff {f : α → Except ε β} {xs : List α} :
    (∃ ys, xs.mapM f = .ok ys) ↔ ∀ x ∈ xs, ∃ y, f x = .ok y := by
  induction xs with
  | nil => exact ⟨nofun, fun _ => ⟨[], rfl⟩⟩
  | cons x rest ih =>
    simp only [mapM_eq_ok_iff, List.forall₂_cons_left_iff, List.forall_mem_cons] at ih ⊢
    rw [← ih]
    constructor
    · rintro ⟨_, y, ys, first, others, rfl⟩
      exact ⟨⟨y, first⟩, ys, others⟩
    · rintro ⟨⟨y, first⟩, ys, others⟩
      exact ⟨_, y, ys, first, others, rfl⟩

/-- A list of computations ends with the error of the first that ends with one. -/
theorem mapM_eq_error_iff {f : α → Except ε β} {xs : List α} {e : ε} :
    xs.mapM f = .error e ↔ ∃ before x after, xs = before ++ x :: after ∧
      (∀ earlier ∈ before, ∃ y, f earlier = .ok y) ∧ f x = .error e := by
  induction xs with
  | nil =>
    constructor
    · intro h
      cases h
    · rintro ⟨before, x, after, split, -⟩
      simp at split
  | cons x rest ih =>
    rw [List.mapM_cons, bind_eq_error_iff]
    simp only [bind_eq_error_iff, ih]
    constructor
    · rintro (first | ⟨y, first, ⟨before, x', after, rfl, passed, failed⟩ | ⟨_, -, h⟩⟩)
      · exact ⟨[], x, rest, rfl, nofun, first⟩
      · exact ⟨x :: before, x', after, rfl, List.forall_mem_cons.mpr ⟨⟨y, first⟩, passed⟩, failed⟩
      · cases h
    · rintro ⟨before, x', after, split, passed, failed⟩
      cases before with
      | nil =>
        obtain ⟨rfl, -⟩ := List.cons.inj split
        exact .inl failed
      | cons head before =>
        obtain ⟨rfl, rest_eq⟩ := List.cons.inj split
        obtain ⟨⟨y, first⟩, passed⟩ := List.forall_mem_cons.mp passed
        exact .inr ⟨y, first, .inl ⟨before, x', after, rest_eq, passed, failed⟩⟩

end Criteria
