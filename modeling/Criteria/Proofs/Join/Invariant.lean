import Criteria.Join

/-!
# What holds of every plan of joins

A plan grows one association at a time: `JoinPlan.cross` says all that one hop can do to it, and a
walk is a run of such steps. Every plan that walks from the root build is `WellFormed`: joins stand
at their numbers, no association is joined twice, parents come before their children, and dotted
paths go on from those of the parents. What a walk leaves behind is where it left it:
`Ends key? source` tells a source by the last association on the way to it.
-/

namespace Criteria

/-- What a join is known by: the entity that declares an association, and its name. -/
abbrev JoinKey : Type := String × String

def Hop.key (hop : Hop) : JoinKey := (hop.owner, hop.association)

def Join.key (join : Join) : JoinKey := (join.owner, join.association)

namespace JoinPlan

variable {plan plan' : JoinPlan} {source : Source} {key? : Option JoinKey}

/-- The keys of the joins, in order. -/
def keys (plan : JoinPlan) : List JoinKey := plan.joins.map Join.key

/-- Every join stands at its own number, no key is joined twice, and a join hangs from the root or
from a join before it, whose dotted path its own goes on from. -/
structure WellFormed (plan : JoinPlan) : Prop where
  id_eq : ∀ {id : Nat} {join : Join}, plan.get? id = some join → join.id = id
  keys_nodup : plan.keys.Nodup
  parent_lt : ∀ {join : Join} {id : Nat},
    join ∈ plan.joins → join.parent = .join id → id < join.id
  path_eq : ∀ {join : Join},
    join ∈ plan.joins → join.path = dotted (plan.pathOf join.parent) join.association

/-- The source is the one that a way leads to which ends with the association of the key, or the
root when the way has none. -/
inductive Ends (plan : JoinPlan) : Option JoinKey → Source → Prop
  | root : Ends plan none .root
  | join {id : Nat} {join : Join} (found : plan.get? id = some join) :
      Ends plan (some join.key) (.join id)

/-! ## Looking up joins -/

@[simp] theorem key_next (plan : JoinPlan) (source : Source) (hop : Hop) :
    (plan.next source hop).key = hop.key := rfl

theorem mem_of_get? {id : Nat} {join : Join} (h : plan.get? id = some join) :
    join ∈ plan.joins := List.mem_of_getElem? h

theorem key_mem_of_get? {id : Nat} {join : Join} (h : plan.get? id = some join) :
    join.key ∈ plan.keys := List.mem_map_of_mem (mem_of_get? h)

theorem lt_size_of_get? {id : Nat} {join : Join} (h : plan.get? id = some join) :
    id < plan.size := (List.getElem?_eq_some_iff.mp h).1

theorem get?_of_isPrefix (grown : plan.joins <+: plan'.joins) {id : Nat} {join : Join}
    (h : plan.get? id = some join) : plan'.get? id = some join := by
  obtain ⟨added, eq⟩ := grown
  rw [get?, ← eq, List.getElem?_append_left (lt_size_of_get? h)]
  exact h

theorem find?_eq_none_iff {hop : Hop} :
    plan.find? hop.owner hop.association = none ↔ hop.key ∉ plan.keys := by
  simp [find?, keys, Join.key, Hop.key, List.find?_eq_none]

theorem get?_of_find? (wf : plan.WellFormed) {hop : Hop} {join : Join}
    (h : plan.find? hop.owner hop.association = some join) :
    plan.get? join.id = some join ∧ join.key = hop.key := by
  obtain ⟨id, at_id⟩ := List.mem_iff_getElem?.mp (List.mem_of_find?_eq_some h)
  have same := List.find?_some h
  refine ⟨?_, ?_⟩
  · rw [wf.id_eq at_id]
    exact at_id
  · simpa [Join.key, Hop.key] using same

/-- A key stands for one join. -/
theorem WellFormed.id_inj (wf : plan.WellFormed) {id id' : Nat} {join join' : Join}
    (h : plan.get? id = some join) (h' : plan.get? id' = some join')
    (same : join.key = join'.key) : id = id' := by
  have lt : id < plan.keys.length := by
    rw [keys, List.length_map]
    exact lt_size_of_get? h
  have at_id : plan.keys[id]? = plan.keys[id']? := by
    rw [keys, List.getElem?_map, List.getElem?_map, ← get?, ← get?, h, h']
    exact congrArg some same
  exact (List.getElem?_inj lt wf.keys_nodup).mp at_id

namespace Ends

theorem mono (grown : plan.joins <+: plan'.joins) (h : plan.Ends key? source) :
    plan'.Ends key? source := by
  cases h with
  | root => exact .root
  | join found => exact .join (get?_of_isPrefix grown found)

theorem exists_get? {key : JoinKey} (h : plan.Ends (some key) source) :
    ∃ id join, source = .join id ∧ plan.get? id = some join ∧ join.key = key := by
  cases h with
  | join found => exact ⟨_, _, rfl, found, rfl⟩

theorem eq_root (h : plan.Ends none source) : source = .root := by
  cases h with
  | root => rfl

theorem eq_none (h : plan.Ends key? .root) : key? = none := by
  cases h with
  | root => rfl

theorem exists_key {id : Nat} (h : plan.Ends key? (.join id)) :
    ∃ join, plan.get? id = some join ∧ key? = some join.key := by
  cases h with
  | join found => exact ⟨_, found, rfl⟩

/-- Ways that end alike lead to one source. -/
theorem source_unique (wf : plan.WellFormed) {source' : Source} (h : plan.Ends key? source)
    (h' : plan.Ends key? source') : source = source' := by
  cases h with
  | root =>
    cases h' with
    | root => rfl
  | join found =>
    obtain ⟨id', join', rfl, found', same⟩ := h'.exists_get?
    rw [wf.id_inj found found' same.symm]

/-- A source knows the last association on the way to it. -/
theorem key_unique {key?' : Option JoinKey} (h : plan.Ends key? source)
    (h' : plan.Ends key?' source) : key? = key?' := by
  cases h with
  | root =>
    cases h' with
    | root => rfl
  | join found =>
    cases h' with
    | join found' => rw [Option.some.inj (found.symm.trans found')]

/-- The dotted path of a source stays when the plan grows. -/
theorem pathOf_eq (grown : plan.joins <+: plan'.joins) (h : plan.Ends key? source) :
    plan'.pathOf source = plan.pathOf source := by
  cases h with
  | root => rfl
  | join found => simp only [pathOf, found, get?_of_isPrefix grown found]

end Ends

/-! ## One hop -/

/-- Crosses one association: to its join if there is one, and else to a new join under the
source. -/
def cross (plan : JoinPlan) (source : Source) (hop : Hop) : JoinPlan × Source × JoinMove :=
  match plan.find? hop.owner hop.association with
  | some join => (plan, .join join.id, .reused hop.owner hop.association)
  | none =>
    let join := plan.next source hop
    (⟨plan.joins ++ [join]⟩, .join join.id, .created hop.owner hop.association join.path)

/-- A walk crosses its first association and goes on from there. -/
theorem walk_cons (plan : JoinPlan) (source : Source) (hop : Hop) (rest : List Hop) :
    plan.walk source (hop :: rest) =
      let crossed := plan.cross source hop
      let walked := crossed.1.walk crossed.2.1 rest
      (walked.1, walked.2.1, crossed.2.2 :: walked.2.2) := by
  rw [walk, cross]
  cases plan.find? hop.owner hop.association <;> rfl

/-- What crossing an association can do: the join is there, or it is appended. -/
theorem cross_cases (wf : plan.WellFormed) (source : Source) (hop : Hop) :
    (∃ id join, plan.get? id = some join ∧ join.key = hop.key ∧
      plan.cross source hop = (plan, .join id, .reused hop.owner hop.association)) ∨
    (hop.key ∉ plan.keys ∧
      plan.cross source hop =
        (⟨plan.joins ++ [plan.next source hop]⟩, .join plan.size,
          .created hop.owner hop.association (plan.next source hop).path)) := by
  cases found : plan.find? hop.owner hop.association with
  | some join =>
    obtain ⟨at_id, same⟩ := get?_of_find? wf found
    exact .inl ⟨join.id, join, at_id, same, by rw [cross, found]⟩
  | none => exact .inr ⟨find?_eq_none_iff.mp found, by rw [cross, found]; rfl⟩

/-! ## Every plan is well formed -/

theorem wellFormed_empty : (∅ : JoinPlan).WellFormed where
  id_eq h := by cases mem_of_get? h
  keys_nodup := List.nodup_nil
  parent_lt h := by cases h
  path_eq h := by cases h

theorem get?_append_next (plan : JoinPlan) (source : Source) (hop : Hop) :
    (⟨plan.joins ++ [plan.next source hop]⟩ : JoinPlan).get? plan.size =
      some (plan.next source hop) :=
  List.getElem?_concat_length

theorem get?_append_cases {join new : Join} {id : Nat}
    (h : (⟨plan.joins ++ [new]⟩ : JoinPlan).get? id = some join) :
    plan.get? id = some join ∨ id = plan.size ∧ join = new := by
  rw [get?, List.getElem?_append] at h
  split at h
  · exact .inl h
  · obtain ⟨lt, eq⟩ := List.getElem?_eq_some_iff.mp h
    have last : id - plan.joins.length = 0 := by simpa using lt
    exact .inr ⟨by unfold size; omega, by simpa [last] using eq.symm⟩

/-- What a join hangs from is there. -/
theorem WellFormed.exists_ends_parent (wf : plan.WellFormed) {join : Join}
    (mem : join ∈ plan.joins) : ∃ key?, plan.Ends key? join.parent := by
  cases hangs : join.parent with
  | root => exact ⟨none, .root⟩
  | join id =>
    obtain ⟨own, at_own⟩ := List.mem_iff_getElem?.mp mem
    have lt : id < plan.size := by
      have := wf.parent_lt mem hangs
      rw [wf.id_eq at_own] at this
      exact Nat.lt_trans this (lt_size_of_get? at_own)
    exact ⟨_, .join (List.getElem?_eq_getElem lt)⟩

theorem WellFormed.append_next (wf : plan.WellFormed) {hop : Hop} (ends : plan.Ends key? source)
    (fresh : hop.key ∉ plan.keys) :
    (⟨plan.joins ++ [plan.next source hop]⟩ : JoinPlan).WellFormed := by
  have grown : plan.joins <+: plan.joins ++ [plan.next source hop] := List.prefix_append _ _
  constructor
  case id_eq =>
    intro id join h
    rcases get?_append_cases h with old | ⟨rfl, rfl⟩
    · exact wf.id_eq old
    · rfl
  case keys_nodup =>
    rw [keys, List.map_append, List.nodup_append]
    refine ⟨wf.keys_nodup, List.pairwise_singleton _ _, ?_⟩
    rintro key old _ new rfl
    rw [List.map_singleton, List.mem_singleton, key_next] at new
    exact fresh (new ▸ old)
  case parent_lt =>
    intro join id mem hangs
    rcases List.mem_append.mp mem with old | new
    · exact wf.parent_lt old hangs
    · obtain rfl := List.mem_singleton.mp new
      obtain rfl : source = .join id := hangs
      cases ends with
      | join found => exact lt_size_of_get? found
  case path_eq =>
    intro join mem
    rcases List.mem_append.mp mem with old | new
    · obtain ⟨_, parent⟩ := wf.exists_ends_parent old
      rw [parent.pathOf_eq grown]
      exact wf.path_eq old
    · obtain rfl := List.mem_singleton.mp new
      exact congrArg (dotted · hop.association) (ends.pathOf_eq grown).symm

/-- One hop keeps a plan well formed, changes no join that is there, and leads to the join of its
association. -/
theorem WellFormed.cross (wf : plan.WellFormed) (ends : plan.Ends key? source) (hop : Hop) :
    (plan.cross source hop).1.WellFormed ∧
      plan.joins <+: (plan.cross source hop).1.joins ∧
      (plan.cross source hop).1.Ends (some hop.key) (plan.cross source hop).2.1 := by
  rcases cross_cases wf source hop with ⟨id, join, found, same, eq⟩ | ⟨fresh, eq⟩
  · rw [eq]
    exact ⟨wf, List.prefix_refl _, same ▸ .join found⟩
  · rw [eq]
    exact ⟨wf.append_next ends fresh, List.prefix_append _ _,
      .join (get?_append_next plan source hop)⟩

end JoinPlan

end Criteria
