import Criteria.Proofs.Join.Repassing
import Mathlib.Data.List.Induction

/-!
# Plans with an index of their joins

A plan looks the join of an association up among its joins. It may as well keep an index beside
them, into which each join is entered when it is made: an `IndexedPlan`. Whatever associations are
passed, in lists that need not fit any schema, the two do the same, and the index leads to a number
exactly when the join at that number has the key. So all that holds of a plan can be read off either
of them: `IndexedPlan.Represents` says what a plan is after any lists of associations, and
`IndexedPlan.Extends` what one more list does to it.
-/

namespace Criteria

/-- A plan, and the numbers of its joins by their keys. -/
structure IndexedPlan where
  plan : JoinPlan
  index : List (JoinKey × Nat)

namespace IndexedPlan

/-- No joins, and nothing in the index. -/
def empty : IndexedPlan := ⟨∅, []⟩

/-- The number that the index leads to. -/
def number? (indexed : IndexedPlan) (key : JoinKey) : Option Nat := indexed.index.lookup key

/-- Crosses one association: to the join that the index leads to, and else to a new join under the
source, which is entered. -/
def cross (indexed : IndexedPlan) (source : Source) (hop : Hop) : IndexedPlan × Source × JoinMove :=
  match indexed.number? hop.key with
  | some id => (indexed, .join id, .reused hop.owner hop.association)
  | none =>
    let join := indexed.plan.next source hop
    (⟨⟨indexed.plan.joins ++ [join]⟩, (hop.key, join.id) :: indexed.index⟩, .join join.id,
      .created hop.owner hop.association join.path)

/-- Crosses associations one after the other from a source on. -/
def walk (indexed : IndexedPlan) (source : Source) :
    List Hop → IndexedPlan × Source × List JoinMove
  | [] => (indexed, source, [])
  | hop :: rest =>
    let crossed := indexed.cross source hop
    let walked := crossed.1.walk crossed.2.1 rest
    (walked.1, walked.2.1, crossed.2.2 :: walked.2.2)

/-- Passes the associations of a path from the root. -/
def pass (indexed : IndexedPlan) (hops : List Hop) : IndexedPlan × Source × List JoinMove :=
  indexed.walk .root hops

/-- Passes lists of associations, one list after the other. -/
def passAll (lists : List (List Hop)) : IndexedPlan :=
  lists.foldl (fun indexed hops => (indexed.pass hops).1) empty

/-- The plan is well formed, and the index leads to a number exactly when the join at that number
has the key. -/
structure Sound (indexed : IndexedPlan) : Prop where
  wellFormed : indexed.plan.WellFormed
  number?_eq_some_iff : ∀ {key : JoinKey} {id : Nat},
    indexed.number? key = some id ↔ ∃ join, indexed.plan.get? id = some join ∧ join.key = key

variable {indexed : IndexedPlan} {source : Source} {key? : Option JoinKey}

/-! ## One hop -/

theorem number?_entered (plan : JoinPlan) (own key : JoinKey) (id : Nat)
    (index : List (JoinKey × Nat)) :
    (⟨plan, (own, id) :: index⟩ : IndexedPlan).number? key =
      if key = own then some id else index.lookup key := by
  rw [number?, List.lookup_cons]
  by_cases same : key = own
  · rw [if_pos same, beq_iff_eq.mpr same]
  · rw [if_neg same, beq_eq_false_iff_ne.mpr same]

theorem sound_empty : empty.Sound where
  wellFormed := JoinPlan.wellFormed_empty
  number?_eq_some_iff := by
    intro key id
    constructor
    · intro found
      cases found
    · rintro ⟨join, found, -⟩
      cases JoinPlan.mem_of_get? found

theorem Sound.number?_eq_none (sound : indexed.Sound) {key : JoinKey}
    (fresh : key ∉ indexed.plan.keys) : indexed.number? key = none := by
  rw [Option.eq_none_iff_forall_ne_some]
  intro id leads
  obtain ⟨join, found, rfl⟩ := sound.number?_eq_some_iff.mp leads
  exact fresh (JoinPlan.key_mem_of_get? found)

/-- With the index or without, one hop does the same. -/
theorem Sound.cross_eq (sound : indexed.Sound) (source : Source) (hop : Hop) :
    ((indexed.cross source hop).1.plan, (indexed.cross source hop).2) =
      indexed.plan.cross source hop := by
  rcases JoinPlan.cross_cases sound.wellFormed source hop with
    ⟨id, join, found, same, eq⟩ | ⟨fresh, eq⟩
  · rw [eq, cross, sound.number?_eq_some_iff.mpr ⟨join, found, same⟩]
  · rw [eq, cross, sound.number?_eq_none fresh]
    rfl

/-- A join that is appended and entered leaves the index right. -/
theorem Sound.enter (sound : indexed.Sound) (ends : indexed.plan.Ends key? source) {hop : Hop}
    (fresh : hop.key ∉ indexed.plan.keys) :
    Sound ⟨⟨indexed.plan.joins ++ [indexed.plan.next source hop]⟩,
      (hop.key, indexed.plan.size) :: indexed.index⟩ where
  wellFormed := sound.wellFormed.append_next ends fresh
  number?_eq_some_iff := by
    intro key id
    rw [number?_entered]
    constructor
    · intro leads
      split at leads
      · rename_i own
        obtain rfl := Option.some.inj leads
        exact ⟨_, JoinPlan.get?_append_next indexed.plan source hop, own.symm⟩
      · obtain ⟨join, found, same⟩ := sound.number?_eq_some_iff.mp leads
        exact ⟨join, JoinPlan.get?_of_isPrefix (List.prefix_append _ _) found, same⟩
    · rintro ⟨join, found, rfl⟩
      rcases JoinPlan.get?_append_cases found with old | ⟨rfl, rfl⟩
      · have other : join.key ≠ hop.key := fun same => fresh (same ▸ JoinPlan.key_mem_of_get? old)
        rw [if_neg other]
        exact sound.number?_eq_some_iff.mpr ⟨join, old, rfl⟩
      · exact if_pos rfl

theorem Sound.cross (sound : indexed.Sound) (ends : indexed.plan.Ends key? source) (hop : Hop) :
    (indexed.cross source hop).1.Sound := by
  rcases JoinPlan.cross_cases sound.wellFormed source hop with
    ⟨id, join, found, same, -⟩ | ⟨fresh, -⟩
  · rw [IndexedPlan.cross, sound.number?_eq_some_iff.mpr ⟨join, found, same⟩]
    exact sound
  · rw [IndexedPlan.cross, sound.number?_eq_none fresh]
    exact sound.enter ends fresh

/-! ## Lists of associations -/

/-- With the index or without, a walk does the same, and it leaves the index right. -/
theorem Sound.walk (sound : indexed.Sound) (ends : indexed.plan.Ends key? source)
    (hops : List Hop) : (indexed.walk source hops).1.Sound ∧
      ((indexed.walk source hops).1.plan, (indexed.walk source hops).2) =
        indexed.plan.walk source hops := by
  induction hops generalizing indexed source key? with
  | nil => exact ⟨sound, rfl⟩
  | cons hop rest ih =>
    obtain ⟨-, -, here⟩ := sound.wellFormed.cross ends hop
    have same := sound.cross_eq source hop
    rw [← same] at here
    obtain ⟨sound', walked⟩ := ih (sound.cross ends hop) here
    refine ⟨sound', ?_⟩
    rw [JoinPlan.walk_cons, ← same]
    dsimp only at walked ⊢
    rw [← walked, walk]

theorem Sound.pass (sound : indexed.Sound) (hops : List Hop) : (indexed.pass hops).1.Sound ∧
    ((indexed.pass hops).1.plan, (indexed.pass hops).2) = indexed.plan.pass hops :=
  sound.walk .root hops

theorem sound_passAll (lists : List (List Hop)) : (passAll lists).Sound := by
  induction lists using List.reverseRecOn with
  | nil => exact sound_empty
  | append_singleton before hops ih =>
    rw [passAll, List.foldl_append]
    exact (ih.pass hops).1

/-- With the index or without, lists of associations make the same plan. -/
theorem plan_passAll (lists : List (List Hop)) :
    (passAll lists).plan = lists.foldl (fun plan hops => (plan.pass hops).1) ∅ := by
  induction lists using List.reverseRecOn with
  | nil => rfl
  | append_singleton before hops ih =>
    rw [passAll, List.foldl_append, List.foldl_append, ← ih]
    exact congrArg Prod.fst ((sound_passAll before).pass hops).2

/-- Associations that are all joined leave the index as it is, too. -/
theorem Sound.walk_of_known (sound : indexed.Sound) {hops : List Hop}
    (known : ∀ hop ∈ hops, hop.key ∈ indexed.plan.keys) (source : Source) :
    (indexed.walk source hops).1 = indexed := by
  induction hops generalizing source with
  | nil => rfl
  | cons hop rest ih =>
    obtain ⟨joined, known⟩ := List.forall_mem_cons.mp known
    obtain ⟨join, mem, same⟩ := List.mem_map.mp joined
    obtain ⟨id, found⟩ := List.mem_iff_getElem?.mp mem
    rw [IndexedPlan.walk, IndexedPlan.cross, sound.number?_eq_some_iff.mpr ⟨join, found, same⟩]
    exact ih known (.join id)

/-- Passed again at once, the same associations change nothing and lead to the same source. -/
theorem Sound.pass_again (sound : indexed.Sound) (hops : List Hop) :
    (indexed.pass hops).1.pass hops = ((indexed.pass hops).1, (indexed.pass hops).2.1,
      hops.map fun hop => .reused hop.owner hop.association) := by
  obtain ⟨sound', same⟩ := sound.pass hops
  have known : ∀ hop ∈ hops, hop.key ∈ (indexed.pass hops).1.plan.keys := by
    intro hop mem
    have joined := sound.wellFormed.key_mem_walk .root mem
    rwa [← JoinPlan.pass, ← same] at joined
  have made : (indexed.pass hops).1.plan = (indexed.plan.pass hops).1 := congrArg Prod.fst same
  have grown : (indexed.plan.pass hops).1.joins <+: (indexed.pass hops).1.plan.joins :=
    made ▸ List.prefix_refl _
  have again := sound.wellFormed.pass_again sound'.wellFormed grown
  rw [← same, ← (sound'.pass hops).2] at again
  obtain ⟨-, rest⟩ := Prod.mk.inj again
  exact Prod.ext (sound'.walk_of_known known .root) rest

end IndexedPlan

/-! ## What a plan is -/

/-- The parents of a source lead to the root. -/
inductive JoinPlan.Rooted (plan : JoinPlan) : Source → Prop
  | root : Rooted plan .root
  | join {id : Nat} {join : Join} (found : plan.get? id = some join)
      (above : Rooted plan join.parent) : Rooted plan (.join id)

theorem JoinPlan.WellFormed.rooted {plan : JoinPlan} (wf : plan.WellFormed) {id : Nat} {join : Join}
    (found : plan.get? id = some join) : plan.Rooted (.join id) := by
  -- parents have smaller numbers
  induction id using Nat.strongRecOn generalizing join with
  | ind id ih =>
    refine .join found ?_
    obtain ⟨key?, ends⟩ := wf.exists_ends_parent (mem_of_get? found)
    cases hangs : join.parent with
    | root => exact .root
    | join above =>
      rw [hangs] at ends
      obtain ⟨parent, found', -⟩ := ends.exists_key
      have lt := wf.parent_lt (mem_of_get? found) hangs
      rw [wf.id_eq found] at lt
      exact ih above lt found'

namespace IndexedPlan

variable {indexed : IndexedPlan} {after : IndexedPlan × Source × List JoinMove} {hops : List Hop}

/-- What a plan is, with an index that leads to a number exactly when the join at that number has
the key, and so finds what the plan finds. Each join stands at its number. It hangs from the root or
from a join of a smaller number, so that all hang from the root in the end, and its path is its
association's name or goes on with it from the path of that join. No two joins have one key. -/
structure Represents (indexed : IndexedPlan) : Prop where
  id_eq : ∀ id join, indexed.plan.get? id = some join → join.id = id
  parent_lt : ∀ id join, indexed.plan.get? id = some join →
    join.parent = .root ∨ ∃ above < id, join.parent = .join above
  rooted : ∀ id join, indexed.plan.get? id = some join → indexed.plan.Rooted (.join id)
  path_of_root : ∀ id join, indexed.plan.get? id = some join → join.parent = .root →
    join.path = join.association
  path_of_join : ∀ id join above, indexed.plan.get? id = some join → join.parent = .join above →
    ∃ parent, indexed.plan.get? above = some parent ∧
      join.path = parent.path ++ "." ++ join.association
  number?_eq_some_iff : ∀ key id,
    indexed.number? key = some id ↔ ∃ join, indexed.plan.get? id = some join ∧ join.key = key
  find?_eq : ∀ owner association,
    (indexed.plan.find? owner association).map (·.id) = indexed.number? (owner, association)
  key_inj : ∀ id id' join join', indexed.plan.get? id = some join →
    indexed.plan.get? id' = some join' → join.key = join'.key → id = id'

/-- What passing a list of associations does to a plan, with the index or without. It appends joins
and leaves those that are there, with their paths. It leads to the root when the list is empty, and
else to the join of its last association; and passed at once again, the list changes nothing and
leads to the same source. -/
structure Extends (indexed : IndexedPlan) (hops : List Hop)
    (after : IndexedPlan × Source × List JoinMove) : Prop where
  pass_eq : indexed.plan.pass hops = (after.1.plan, after.2)
  appends : indexed.plan.joins <+: after.1.plan.joins
  get?_eq : ∀ id < indexed.plan.size, after.1.plan.get? id = indexed.plan.get? id
  pathOf_eq : ∀ id < indexed.plan.size,
    after.1.plan.pathOf (.join id) = indexed.plan.pathOf (.join id)
  source_eq_root_iff : after.2.1 = .root ↔ hops = []
  exists_join : ∀ last, hops.getLast? = some last → ∃ id join,
    after.2.1 = .join id ∧ after.1.plan.get? id = some join ∧ join.key = last.key
  again : (after.1.pass hops).1 = after.1 ∧ (after.1.pass hops).2.1 = after.2.1

theorem Sound.find?_eq (sound : indexed.Sound) (owner association : String) :
    (indexed.plan.find? owner association).map (·.id) = indexed.number? (owner, association) := by
  let hop : Hop := ⟨owner, association, "", false⟩
  change (indexed.plan.find? hop.owner hop.association).map (·.id) = indexed.number? hop.key
  cases found : indexed.plan.find? hop.owner hop.association with
  | some join =>
    have here := JoinPlan.get?_of_find? sound.wellFormed found
    rw [sound.number?_eq_some_iff.mpr ⟨join, here⟩, Option.map_some]
  | none =>
    rw [sound.number?_eq_none (JoinPlan.find?_eq_none_iff.mp found), Option.map_none]

theorem Sound.represents (sound : indexed.Sound) : indexed.Represents := by
  have wf := sound.wellFormed
  constructor
  case id_eq => exact fun id join found => wf.id_eq found
  case parent_lt =>
    intro id join found
    cases hangs : join.parent with
    | root => exact .inl rfl
    | join above =>
      have lt := wf.parent_lt (JoinPlan.mem_of_get? found) hangs
      rw [wf.id_eq found] at lt
      exact .inr ⟨above, lt, rfl⟩
  case rooted => exact fun id join found => wf.rooted found
  case path_of_root =>
    intro id join found hangs
    rw [wf.path_eq (JoinPlan.mem_of_get? found), hangs]
    rfl
  case path_of_join =>
    intro id join above found hangs
    obtain ⟨key?, ends⟩ := wf.exists_ends_parent (JoinPlan.mem_of_get? found)
    rw [hangs] at ends
    obtain ⟨parent, found', -⟩ := ends.exists_key
    refine ⟨parent, found', ?_⟩
    rw [wf.path_eq (JoinPlan.mem_of_get? found), hangs, JoinPlan.pathOf, found']
    rfl
  case number?_eq_some_iff => exact fun key id => sound.number?_eq_some_iff
  case find?_eq => exact sound.find?_eq
  case key_inj => exact fun id id' join join' found found' same => wf.id_inj found found' same

theorem Sound.extends (sound : indexed.Sound) (hops : List Hop) :
    indexed.Extends hops (indexed.pass hops) := by
  have wf := sound.wellFormed
  obtain ⟨-, same⟩ := sound.pass hops
  have grown := JoinPlan.joins_isPrefix_pass indexed.plan hops
  have ends := (wf.pass hops).2
  rw [← same] at grown ends
  have kept : ∀ id < indexed.plan.size,
      (indexed.pass hops).1.plan.get? id = indexed.plan.get? id := by
    intro id lt
    have found : indexed.plan.get? id = some _ := List.getElem?_eq_getElem lt
    rw [found, JoinPlan.get?_of_isPrefix grown found]
  constructor
  case pass_eq => exact same.symm
  case appends => exact grown
  case get?_eq => exact kept
  case pathOf_eq =>
    intro id lt
    rw [JoinPlan.pathOf, kept id lt, JoinPlan.pathOf]
  case source_eq_root_iff =>
    constructor
    · intro root
      rw [root] at ends
      exact List.getLast?_eq_none_iff.mp (Option.map_eq_none_iff.mp ends.eq_none)
    · rintro rfl
      rfl
  case exists_join =>
    intro last isLast
    rw [isLast, Option.map_some] at ends
    exact ends.exists_get?
  case again =>
    rw [sound.pass_again hops]
    exact ⟨rfl, rfl⟩

/-- What comes of lists of associations, whether they fit a schema or not: the index is one of the
plan that the lists make without it, the joins and the index stand as they should, and one more
list, any one, extends them. -/
structure Keeps (lists : List (List Hop)) (indexed : IndexedPlan) : Prop where
  plan_eq : indexed.plan = lists.foldl (fun plan hops => (plan.pass hops).1) ∅
  represents : indexed.Represents
  extends_pass : ∀ hops, indexed.Extends hops (indexed.pass hops)

theorem keeps_passAll (lists : List (List Hop)) : Keeps lists (passAll lists) where
  plan_eq := plan_passAll lists
  represents := (sound_passAll lists).represents
  extends_pass := (sound_passAll lists).extends

/-- The second list leaves the join that it has just made for one of the first list, and goes on
below that. -/
example :
    let department : Hop := ⟨"Person", "department", "Department", false⟩
    let boss : Hop := ⟨"Person", "boss", "Manager", false⟩
    let head : Hop := ⟨"Department", "head", "Manager", false⟩
    (passAll [[department], [boss, department, head]]).plan.joins.map
        (fun join => (join.id, join.parent, join.path)) =
      [(0, .root, "department"), (1, .root, "boss"), (2, .join 0, "department.head")] := rfl

end IndexedPlan

end Criteria
