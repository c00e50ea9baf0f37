import Criteria.Proofs.Compilation.Course

/-!
# The frame around the parts of a compilation

Between the lookup of its layout and its end a compilation tells only of its parts: of criteria, of
joins and of predicates. The start, the lookup and the end, which stand around them, are told once.
-/

namespace Criteria

/-! ## Events of one sort -/

namespace Logged

variable {ε δ α β : Type} {P : Event → Prop}

/-- Events are of one sort when those of both halves of a computation are. -/
theorem forall_events_bind {x : Logged ε α} {k : α → Logged ε β}
    (first : ∀ event ∈ x.events, P event) (second : ∀ a, ∀ event ∈ (k a).events, P event) :
    ∀ event ∈ (x >>= k).events, P event := by
  intro event mem
  cases ended : x.outcome with
  | error e =>
    rw [events_bind_of_error ended] at mem
    exact first event mem
  | ok a =>
    rw [events_bind_of_ok ended] at mem
    rcases List.mem_append.mp mem with mem | mem
    · exact first event mem
    · exact second a event mem

theorem forall_events_lift (wrap : δ → ε) (x : Except δ α) :
    ∀ event ∈ (lift wrap x).events, P event := List.forall_mem_nil P

theorem forall_events_pure (a : α) : ∀ event ∈ (pure a : Logged ε α).events, P event :=
  List.forall_mem_nil P

end Logged

/-- Whether an event is of a part of a compilation: of a criterion, a join or a predicate. -/
def Event.isOfPart : Event → Bool
  | fieldSkipped .. | joined _ | predicateBuilt .. => true
  | _ => false

/-- Whether an event is of a query around a compilation. -/
def Event.isOfQuery : Event → Bool
  | queryStart .. | queryFinish .. => true
  | _ => false

namespace Compiler

variable {compiler : Compiler} {request : Request} {cache : LayoutCache}

/-! ## Parts -/

theorem isOfPart_of_mem_pass (plan : JoinPlan) (hops : List Hop) :
    ∀ event ∈ (pass plan hops).events, event.isOfPart := by
  intro event mem
  rw [events_pass] at mem
  obtain ⟨move, -, rfl⟩ := List.mem_map.mp mem
  rfl

theorem isOfPart_of_mem_predicate (root : String) (overrides : Overrides) (plan : JoinPlan)
    (criterion : Criterion) :
    ∀ event ∈ (compiler.predicate root overrides plan criterion).events, event.isOfPart := by
  refine Logged.forall_events_bind (Logged.forall_events_lift _ _) fun route => ?_
  refine Logged.forall_events_bind (isOfPart_of_mem_pass plan route.hops) fun passed => ?_
  refine Logged.forall_events_bind (Logged.forall_events_lift _ _) fun comparison => ?_
  refine Logged.forall_events_bind ?_ fun _ => Logged.forall_events_pure _
  exact List.forall_mem_singleton.mpr rfl

theorem isOfPart_of_mem_predicates (root : String) (overrides : Overrides) (plan : JoinPlan)
    (criteria : List Criterion) :
    ∀ event ∈ (compiler.predicates root overrides plan criteria).events, event.isOfPart := by
  induction criteria generalizing plan with
  | nil => exact Logged.forall_events_pure _
  | cons criterion rest ih =>
    unfold Compiler.predicates
    split
    · exact Logged.forall_events_bind (List.forall_mem_singleton.mpr rfl) fun _ => ih plan
    · refine Logged.forall_events_bind
        (isOfPart_of_mem_predicate root overrides plan criterion) fun built => ?_
      exact Logged.forall_events_bind (ih built.1) fun _ => Logged.forall_events_pure _

theorem isOfPart_of_mem_order (root : String) (plan : JoinPlan) (keys : List SortKey) :
    ∀ event ∈ (compiler.order root plan keys).events, event.isOfPart := by
  induction keys generalizing plan with
  | nil => exact Logged.forall_events_pure _
  | cons key rest ih =>
    unfold order
    refine Logged.forall_events_bind ?_ fun built => ?_
    · refine Logged.forall_events_bind (Logged.forall_events_lift _ _) fun route => ?_
      exact Logged.forall_events_bind (isOfPart_of_mem_pass plan route.hops) fun _ =>
        Logged.forall_events_pure _
    · exact Logged.forall_events_bind (ih built.1) fun _ => Logged.forall_events_pure _

/-- What is put together for a layout tells only of parts, whether it comes to an end or not. -/
theorem isOfPart_of_mem_assemble (request : Request) (layout : FilterLayout) :
    ∀ event ∈ (compiler.assemble request layout).events, event.isOfPart := by
  refine Logged.forall_events_bind (Logged.forall_events_lift _ _) fun overrides => ?_
  refine Logged.forall_events_bind (Logged.forall_events_lift _ _) fun _ => ?_
  refine Logged.forall_events_bind
    (isOfPart_of_mem_predicates request.entity overrides ∅ _) fun filtered => ?_
  refine Logged.forall_events_bind
    (isOfPart_of_mem_order request.entity filtered.1 request.sort) fun _ => ?_
  exact Logged.forall_events_pure _

/-! ## The frame -/

/-- Without a layout a compilation tells only its start and its end. -/
theorem compile_of_unfound {error : FilterError}
    (unfound : (cache.lookup compiler.config.rememberLayouts request.type).2 = .error error) :
    (compiler.compile cache request).2 =
      ⟨[.compileStart request.type.name request.entity, closing request (.error (.filter error))],
        .error (.filter error)⟩ := by
  simp only [compile, framed, assembleFound, unfound]
  rfl

/-- With a layout it tells how that was found after its start, and then of its parts. -/
theorem compile_of_found {found : LayoutLookup}
    (looked : (cache.lookup compiler.config.rememberLayouts request.type).2 = .ok found) :
    (compiler.compile cache request).2 =
      ⟨[.compileStart request.type.name request.entity, opening found] ++
          (compiler.assemble request found.layout).events ++
          [closing request (compiler.assemble request found.layout).outcome],
        (compiler.assemble request found.layout).outcome⟩ := by
  simp only [compile, framed, looked, assembleFound_ok]
  rfl

theorem isOfQuery_opening (found : LayoutLookup) : (opening found).isOfQuery = false := by
  unfold opening
  split <;> rfl

theorem isOfQuery_closing (ended : Except QueryError Specification) :
    (closing request ended).isOfQuery = false := by
  cases ended <;> rfl

theorem isOfQuery_of_isOfPart {event : Event} (h : event.isOfPart) : event.isOfQuery = false := by
  cases event with
  | queryStart | queryFinish => cases h
  | _ => rfl

/-- A compilation tells nothing of the query around it. -/
theorem isOfQuery_of_mem_compile (compiler : Compiler) (cache : LayoutCache) (request : Request) :
    ∀ event ∈ (compiler.compile cache request).2.events, event.isOfQuery = false := by
  cases looked : (cache.lookup compiler.config.rememberLayouts request.type).2 with
  | error error =>
    rw [compile_of_unfound looked]
    simp only [List.forall_mem_cons, isOfQuery_closing]
    exact ⟨rfl, trivial, List.forall_mem_nil _⟩
  | ok found =>
    rw [compile_of_found looked]
    simp only [List.forall_mem_append, List.forall_mem_cons, isOfQuery_opening, isOfQuery_closing]
    refine ⟨⟨⟨rfl, trivial, List.forall_mem_nil _⟩, ?_⟩, trivial, List.forall_mem_nil _⟩
    exact fun event mem => isOfQuery_of_isOfPart (isOfPart_of_mem_assemble _ _ event mem)

end Compiler

end Criteria
