import Criteria.Proofs.Join.Invariant

/-!
# Passing associations again

A walk keeps a plan well formed and ends where its last association leads. All that it has passed is
joined from then on: who passes the same associations later, on whatever the plan has grown to,
makes no join and comes to the same source.
-/

namespace Criteria

namespace JoinPlan

variable {plan plan' : JoinPlan} {source : Source} {key? : Option JoinKey} {hops : List Hop}

/-! ## Walks -/

theorem keys_isPrefix (grown : plan.joins <+: plan'.joins) : plan.keys <+: plan'.keys :=
  grown.map Join.key

/-- A walk keeps a plan well formed, and leads to the join of its last association. -/
theorem WellFormed.walk (wf : plan.WellFormed) (ends : plan.Ends key? source) (hops : List Hop) :
    (plan.walk source hops).1.WellFormed ∧
      (plan.walk source hops).1.Ends ((hops.getLast?.map Hop.key).or key?)
        (plan.walk source hops).2.1 := by
  induction hops generalizing plan source key? with
  | nil => exact ⟨wf, ends⟩
  | cons hop rest ih =>
    obtain ⟨crossed, -, here⟩ := wf.cross ends hop
    have last : ((hop :: rest).getLast?.map Hop.key).or key? =
        (rest.getLast?.map Hop.key).or (some hop.key) := by
      rw [List.getLast?_cons]
      cases rest.getLast? <;> rfl
    rw [walk_cons, last]
    exact ih crossed here

/-- A path that is passed from the root keeps a plan well formed, and leads to the join of its last
association, or nowhere. -/
theorem WellFormed.pass (wf : plan.WellFormed) (hops : List Hop) :
    (plan.pass hops).1.WellFormed ∧
      (plan.pass hops).1.Ends (hops.getLast?.map Hop.key) (plan.pass hops).2.1 := by
  have walked := wf.walk .root hops
  rwa [Option.or_none] at walked

theorem joins_isPrefix_pass (plan : JoinPlan) (hops : List Hop) :
    plan.joins <+: (plan.pass hops).1.joins := joins_isPrefix_walk plan .root hops

/-- What a walk has passed is joined. -/
theorem WellFormed.key_mem_walk (wf : plan.WellFormed) (ends : plan.Ends key? source)
    {hop : Hop} (mem : hop ∈ hops) : hop.key ∈ (plan.walk source hops).1.keys := by
  induction hops generalizing plan source key? with
  | nil => cases mem
  | cons first rest ih =>
    obtain ⟨crossed, -, here⟩ := wf.cross ends first
    rw [walk_cons]
    rcases List.mem_cons.mp mem with rfl | mem
    · obtain ⟨id, join, -, found, same⟩ := here.exists_get?
      have joined := key_mem_of_get? found
      rw [same] at joined
      exact (keys_isPrefix (joins_isPrefix_walk _ _ rest)).subset joined
    · exact ih crossed here mem

/-! ## Known associations -/

/-- Associations that are all joined are passed without a change. -/
theorem WellFormed.walk_of_known (wf : plan.WellFormed) (known : ∀ hop ∈ hops, hop.key ∈ plan.keys)
    (source : Source) : (plan.walk source hops).1 = plan ∧
      (plan.walk source hops).2.2 = hops.map fun hop => .reused hop.owner hop.association := by
  induction hops generalizing source with
  | nil => exact ⟨rfl, rfl⟩
  | cons hop rest ih =>
    obtain ⟨joined, known⟩ := List.forall_mem_cons.mp known
    rw [walk_cons]
    rcases cross_cases wf source hop with ⟨id, join, -, -, eq⟩ | ⟨fresh, -⟩
    · obtain ⟨unchanged, moves⟩ := ih known (.join id)
      rw [eq]
      exact ⟨unchanged, congrArg (_ :: ·) moves⟩
    · exact absurd joined fresh

/-- Passed again, whatever was passed in between, the same associations make no join and lead to the
same source. -/
theorem WellFormed.pass_again (wf : plan.WellFormed) (wf' : plan'.WellFormed)
    (grown : (plan.pass hops).1.joins <+: plan'.joins) :
    plan'.pass hops = (plan', (plan.pass hops).2.1,
      hops.map fun hop => .reused hop.owner hop.association) := by
  have known : ∀ hop ∈ hops, hop.key ∈ plan'.keys := by
    intro hop mem
    exact (keys_isPrefix grown).subset (wf.key_mem_walk .root mem)
  obtain ⟨unchanged, moves⟩ := wf'.walk_of_known known .root
  have there := (wf.pass hops).2.mono grown
  have again := (wf'.pass hops).2
  rw [JoinPlan.pass, unchanged] at again
  have same := again.source_unique wf' there
  exact Prod.ext unchanged (Prod.ext same moves)

end JoinPlan

end Criteria
