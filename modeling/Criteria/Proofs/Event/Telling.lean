import Criteria.Event.Logged
import Criteria.Proofs.Join.Trail

/-!
# What events tell of joins and fields

Events can be read back: which field was skipped or compared, which association was passed, which
join was made. A walk tells one move for each association it passes, and the joins that it tells of
making are those that come to the plan. `InTurn` puts together what parts tell one after the other,
each going on from the plan that the one before has left.
-/

namespace Criteria

/-! ## Moves -/

/-- The association that a move passes. -/
def JoinMove.key : JoinMove → JoinKey
  | created owner association _ => (owner, association)
  | reused owner association => (owner, association)

/-- The join that a move makes: its association and its path. -/
def JoinMove.created? : JoinMove → Option (JoinKey × String)
  | created owner association path => some ((owner, association), path)
  | reused _ _ => none

/-- What is told of a join when it is made. -/
def Join.made (join : Join) : JoinKey × String := (join.key, join.path)

namespace JoinPlan

variable {plan plan' plan'' : JoinPlan}

/-- The moves lead from one plan to another on a way: there is one for each association, and the
joins they make are those that come to the plan. -/
structure Moves (plan : JoinPlan) (way : Trail) (moves : List JoinMove) (plan' : JoinPlan) :
    Prop where
  keys_eq : moves.map JoinMove.key = way
  made_eq : plan'.joins.map Join.made =
    plan.joins.map Join.made ++ moves.filterMap JoinMove.created?

theorem moves_nil (plan : JoinPlan) : plan.Moves [] [] plan where
  keys_eq := rfl
  made_eq := (List.append_nil _).symm

theorem moves_cross (plan : JoinPlan) (source : Source) (hop : Hop) :
    plan.Moves [hop.key] [(plan.cross source hop).2.2] (plan.cross source hop).1 := by
  rw [cross]
  cases plan.find? hop.owner hop.association with
  | some join => exact ⟨rfl, (List.append_nil _).symm⟩
  | none => exact ⟨rfl, List.map_append⟩

theorem Moves.append {way way' : Trail} {moves moves' : List JoinMove}
    (first : plan.Moves way moves plan') (second : plan'.Moves way' moves' plan'') :
    plan.Moves (way ++ way') (moves ++ moves') plan'' where
  keys_eq := by rw [List.map_append, first.keys_eq, second.keys_eq]
  made_eq := by
    rw [second.made_eq, first.made_eq, List.filterMap_append, List.append_assoc]

theorem moves_walk (plan : JoinPlan) (source : Source) (hops : List Hop) :
    plan.Moves (hops.map Hop.key) (plan.walk source hops).2.2 (plan.walk source hops).1 := by
  induction hops generalizing plan source with
  | nil => exact moves_nil plan
  | cons hop rest ih =>
    rw [walk_cons]
    exact (moves_cross plan source hop).append (ih _ _)

/-- Passing a route tells of its associations. -/
theorem moves_pass (plan : JoinPlan) (route : Route) :
    plan.Moves route.trail (plan.pass route.hops).2.2 (plan.pass route.hops).1 :=
  moves_walk plan .root route.hops

end JoinPlan

/-! ## Events read back -/

namespace Event

/-- The field that was skipped. -/
def skipped? : Event → Option String
  | fieldSkipped field _ => some field
  | _ => none

/-- The path of the column that a predicate was built for. -/
def built? : Event → Option String
  | predicateBuilt _ _ column => some column
  | _ => none

/-- The field that was dealt with: skipped or compared. -/
def dealt? : Event → Option String
  | fieldSkipped field _ => some field
  | predicateBuilt field _ _ => some field
  | _ => none

/-- The association that was passed. -/
def passed? : Event → Option JoinKey
  | joined move => some move.key
  | _ => none

/-- The join that was made. -/
def created? : Event → Option (JoinKey × String)
  | joined move => move.created?
  | _ => none

/-- A field that is dealt with is skipped or compared. -/
theorem length_filterMap_dealt? (events : List Event) :
    (events.filterMap skipped?).length + (events.filterMap built?).length =
      (events.filterMap dealt?).length := by
  induction events with
  | nil => rfl
  | cons event rest ih =>
    cases event with
    | fieldSkipped =>
      simp only [List.filterMap_cons, skipped?, built?, dealt?, List.length_cons]
      omega
    | predicateBuilt =>
      simp only [List.filterMap_cons, skipped?, built?, dealt?, List.length_cons]
      omega
    | _ => exact ih

variable (moves : List JoinMove)

@[simp] theorem filterMap_dealt?_joined : (moves.map joined).filterMap dealt? = [] := by
  simp [List.filterMap_map, Function.comp_def, dealt?]

@[simp] theorem filterMap_built?_joined : (moves.map joined).filterMap built? = [] := by
  simp [List.filterMap_map, Function.comp_def, built?]

@[simp] theorem filterMap_passed?_joined :
    (moves.map joined).filterMap passed? = moves.map JoinMove.key := by
  simp [List.filterMap_map, Function.comp_def, passed?]

@[simp] theorem filterMap_created?_joined :
    (moves.map joined).filterMap created? = moves.filterMap JoinMove.created? := by
  rw [List.filterMap_map]
  rfl

end Event

/-! ## Parts in turn -/

/-- Parts tell their events in turn, each going on from the plan that the one before has left. -/
inductive InTurn {α : Type} (Tells : JoinPlan → α → List Event → JoinPlan → Prop) :
    JoinPlan → List α → List Event → JoinPlan → Prop
  | nil (plan : JoinPlan) : InTurn Tells plan [] [] plan
  | cons {plan plan' plan'' : JoinPlan} {part : α} {rest : List α} {told later : List Event}
      (first : Tells plan part told plan') (others : InTurn Tells plan' rest later plan'') :
      InTurn Tells plan (part :: rest) (told ++ later) plan''

namespace InTurn

variable {α β : Type} {Tells : JoinPlan → α → List Event → JoinPlan → Prop}
  {plan plan' : JoinPlan} {parts : List α} {told : List Event}

/-- What is read from the events of parts is what is read from each part. -/
theorem filterMap_eq {read : Event → Option β} {of : α → List β}
    (each : ∀ plan part told plan', Tells plan part told plan' → told.filterMap read = of part)
    (inTurn : InTurn Tells plan parts told plan') : told.filterMap read = parts.flatMap of := by
  induction inTurn with
  | nil => rfl
  | cons first _ ih => rw [List.filterMap_append, each _ _ _ _ first, ih, List.flatMap_cons]

theorem filterMap_eq_nil {read : Event → Option β}
    (each : ∀ plan part told plan', Tells plan part told plan' → told.filterMap read = [])
    (inTurn : InTurn Tells plan parts told plan') : told.filterMap read = [] := by
  rw [inTurn.filterMap_eq each, List.flatMap_eq_nil_iff]
  exact fun _ _ => rfl

/-- The associations told of are those of the routes that parts ask for. -/
theorem exists_routes {asks : α → List (List String)} {resolves : List String → Route → Prop}
    (each : ∀ plan part told plan', Tells plan part told plan' →
      ∃ routes, List.Forall₂ resolves (asks part) routes ∧
        told.filterMap Event.passed? = routes.flatMap Route.trail)
    (inTurn : InTurn Tells plan parts told plan') :
    ∃ routes, List.Forall₂ resolves (parts.flatMap asks) routes ∧
      told.filterMap Event.passed? = routes.flatMap Route.trail := by
  induction inTurn with
  | nil => exact ⟨[], .nil, rfl⟩
  | cons first _ ih =>
    obtain ⟨routes, resolved, passed⟩ := each _ _ _ _ first
    obtain ⟨others, resolved', passed'⟩ := ih
    refine ⟨routes ++ others, ?_, ?_⟩
    · rw [List.flatMap_cons]
      exact List.rel_append resolved resolved'
    · rw [List.filterMap_append, passed, passed', List.flatMap_append]

/-- The joins told of are those that come to the plan. -/
theorem made_eq
    (each : ∀ plan part told plan', Tells plan part told plan' →
      plan'.joins.map Join.made = plan.joins.map Join.made ++ told.filterMap Event.created?)
    (inTurn : InTurn Tells plan parts told plan') :
    plan'.joins.map Join.made =
      plan.joins.map Join.made ++ told.filterMap Event.created? := by
  induction inTurn with
  | nil => exact (List.append_nil _).symm
  | cons first _ ih => rw [ih, each _ _ _ _ first, List.filterMap_append, List.append_assoc]

end InTurn

end Criteria
