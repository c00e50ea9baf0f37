import Criteria.Event.Basic

/-!
# Computations that tell what they do

`Logged ε α` is a computation that ends with a value or an error and has told events on the way. What
was told before an error stays told.
-/

namespace Criteria

/-- The events of a computation in order, and how it ended. -/
@[ext]
structure Logged (ε α : Type) where
  events : List Event
  outcome : Except ε α

namespace Logged

variable {ε α β : Type}

/-- A value with nothing to tell continues as the value does; an error ends the computation. -/
instance : Monad (Logged ε) where
  pure a := ⟨[], .ok a⟩
  bind x k :=
    match x.outcome with
    | .ok a => ⟨x.events ++ (k a).events, (k a).outcome⟩
    | .error e => ⟨x.events, .error e⟩

/-- Tells events. -/
def tell (events : List Event) : Logged ε Unit := ⟨events, .ok ()⟩

/-- Ends as a silent computation ends, with its error read as another kind of error. -/
def lift {δ : Type} (wrap : δ → ε) (x : Except δ α) : Logged ε α := ⟨[], x.mapError wrap⟩

/-! ## What is told, and how it ends -/

@[simp]
theorem events_pure (a : α) : (pure a : Logged ε α).events = [] := rfl

@[simp]
theorem outcome_pure (a : α) : (pure a : Logged ε α).outcome = .ok a := rfl

@[simp]
theorem events_tell (events : List Event) : (tell events : Logged ε Unit).events = events := rfl

@[simp]
theorem outcome_tell (events : List Event) : (tell events : Logged ε Unit).outcome = .ok () := rfl

@[simp]
theorem events_lift {δ : Type} (wrap : δ → ε) (x : Except δ α) : (lift wrap x).events = [] := rfl

@[simp]
theorem outcome_lift {δ : Type} (wrap : δ → ε) (x : Except δ α) :
    (lift wrap x).outcome = x.mapError wrap := rfl

/-- Outcomes follow each other as they would without events. -/
@[simp]
theorem outcome_bind (x : Logged ε α) (k : α → Logged ε β) :
    (x >>= k).outcome = x.outcome >>= fun a => (k a).outcome := by
  obtain ⟨events, outcome⟩ := x
  cases outcome <;> rfl

/-- Nothing is told before a value that is there. -/
theorem lift_ok_bind {δ : Type} (wrap : δ → ε) (a : α) (k : α → Logged ε β) :
    lift wrap (.ok a) >>= k = k a := rfl

theorem lift_error_bind {δ : Type} (wrap : δ → ε) (e : δ) (k : α → Logged ε β) :
    lift wrap (.error e) >>= k = ⟨[], .error (wrap e)⟩ := rfl

theorem events_bind_of_ok {x : Logged ε α} {a : α} (h : x.outcome = .ok a)
    (k : α → Logged ε β) : (x >>= k).events = x.events ++ (k a).events := by
  obtain ⟨events, outcome⟩ := x
  subst h
  rfl

theorem events_bind_of_error {x : Logged ε α} {e : ε} (h : x.outcome = .error e)
    (k : α → Logged ε β) : (x >>= k).events = x.events := by
  obtain ⟨events, outcome⟩ := x
  subst h
  rfl

end Logged

end Criteria
