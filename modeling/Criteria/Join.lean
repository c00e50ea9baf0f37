import Criteria.Path

/-!
# Joins

Every association that a query passes is joined once, however often and from wherever it is passed:
a join is known by the entity that declares the association and the association's name. Joins are
numbered in the order in which they were first needed, and each hangs from the root of the query or
from a join with a smaller number.
-/

namespace Criteria

/-- Where a column or a join hangs: from the root of the query or from a join. -/
inductive Source where
  | root
  | join (id : Nat)
deriving DecidableEq, Repr

/-- A join: its number, the association, the entity joined, where it hangs, and the names of the
associations from the root on with dots between them. -/
structure Join where
  id : Nat
  owner : String
  association : String
  target : String
  parent : Source
  path : String
deriving DecidableEq, Repr

/-- What happens to the joins at one hop. -/
inductive JoinMove where
  | created (owner association path : String)
  | reused (owner association : String)
deriving DecidableEq, Repr

/-- The joins of one query, in order. -/
structure JoinPlan where
  joins : List Join
deriving DecidableEq, Repr

/-- A name below a dotted path, or alone. -/
def dotted (parent : Option String) (name : String) : String :=
  match parent with
  | some parent => parent ++ "." ++ name
  | none => name

namespace JoinPlan

def empty : JoinPlan := ⟨[]⟩

instance : EmptyCollection JoinPlan := ⟨empty⟩
instance : Inhabited JoinPlan := ⟨∅⟩

def size (plan : JoinPlan) : Nat := plan.joins.length

def isEmpty (plan : JoinPlan) : Bool := plan.joins.isEmpty

/-- The join of a number. -/
def get? (plan : JoinPlan) (id : Nat) : Option Join := plan.joins[id]?

/-- The join of an association. -/
def find? (plan : JoinPlan) (owner association : String) : Option Join :=
  plan.joins.find? fun join => join.owner = owner && join.association = association

/-- The dotted path of a source; the root has none. -/
def pathOf (plan : JoinPlan) : Source → Option String
  | .root => none
  | .join id => (plan.get? id).map (·.path)

/-- The join that an association newly passed from a source gets. -/
def next (plan : JoinPlan) (source : Source) (hop : Hop) : Join where
  id := plan.size
  owner := hop.owner
  association := hop.association
  target := hop.target
  parent := source
  path := dotted (plan.pathOf source) hop.association

/-- Passes associations one after the other from a source on, each by its join, which is made where
the way leads if there is none yet. The last source reached is where the column hangs. -/
def walk (plan : JoinPlan) (source : Source) : List Hop → JoinPlan × Source × List JoinMove
  | [] => (plan, source, [])
  | hop :: rest =>
    match plan.find? hop.owner hop.association with
    | some join =>
      let (plan', source', moves) := plan.walk (.join join.id) rest
      (plan', source', .reused hop.owner hop.association :: moves)
    | none =>
      let join := plan.next source hop
      let (plan', source', moves) := walk ⟨plan.joins ++ [join]⟩ (.join join.id) rest
      (plan', source', .created hop.owner hop.association join.path :: moves)

/-- Passes the associations of a path from the root. -/
def pass (plan : JoinPlan) (hops : List Hop) : JoinPlan × Source × List JoinMove :=
  plan.walk .root hops

/-- Planning appends joins and changes none that is there. -/
theorem joins_isPrefix_walk (plan : JoinPlan) (source : Source) (hops : List Hop) :
    plan.joins <+: (plan.walk source hops).1.joins := by
  induction hops generalizing plan source with
  | nil => exact List.prefix_refl _
  | cons hop rest ih =>
    unfold walk
    split
    · exact ih plan _
    · exact (List.prefix_append _ _).trans (ih ⟨plan.joins ++ [plan.next source hop]⟩ _)

end JoinPlan

end Criteria
