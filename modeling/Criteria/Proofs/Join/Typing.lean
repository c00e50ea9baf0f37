import Criteria.Proofs.Join.Column
import Criteria.Proofs.Schema.Resolution
import Criteria.Schema.Registry

/-!
# Typed plans

Every source of a plan stands for an entity: the root for the root entity, a join for the one it
targets. A registry `Types` a plan when each join's association is found from the entity it
hangs from. A join may be come to from entities other than that, but its key names the declaration
of the association, and in a registry a declaration has one target.
-/

namespace Criteria

namespace Registry

variable {registry : Registry}

/-! ## What a key declares -/

theorem mem_ancestors_registered {steps : Nat} {passed : List String} {parent : Option String}
    {entity : Entity} (h : entity ∈ registry.schema.ancestors steps passed parent) :
    registry.entity? entity.name = some entity := by
  induction steps generalizing passed parent with
  | zero => cases h
  | succ steps ih =>
    rw [Schema.ancestors] at h
    split at h
    · cases h
    · rename_i above known
      obtain ⟨name, -, known⟩ := Option.bind_eq_some_iff.mp known
      split at h
      · cases h
      · rcases List.mem_cons.mp h with rfl | h
        · rw [name_of_entity? known]
          exact known
        · exact ih h

/-- The entities on the lineage of a registered entity are registered under their own names. -/
theorem lineage_registered {entity declaring : Entity}
    (known : registry.entity? entity.name = some entity)
    (h : declaring ∈ registry.schema.lineage entity) :
    registry.entity? declaring.name = some declaring := by
  rcases List.mem_cons.mp h with rfl | h
  · exact known
  · exact mem_ancestors_registered h

/-- The association of a key is declared with a target. -/
def Targets (registry : Registry) (key : JoinKey) (target : String) : Prop :=
  ∃ declaring field, registry.entity? key.1 = some declaring ∧
    declaring.declared? key.2 = some field ∧ field.target? = some target

/-- A key determines the target of its association. -/
theorem Targets.unique {key : JoinKey} {target target' : String} (h : registry.Targets key target)
    (h' : registry.Targets key target') : target = target' := by
  obtain ⟨declaring, field, known, declared, targets⟩ := h
  obtain ⟨declaring', field', known', declared', targets'⟩ := h'
  obtain rfl := Option.some.inj (known.symm.trans known')
  obtain rfl := Option.some.inj (declared.symm.trans declared')
  exact Option.some.inj (targets.symm.trans targets')

theorem targets_of_find? {entity : Entity} {name target : String} {found : Schema.Found}
    (known : registry.entity? entity.name = some entity)
    (finds : registry.schema.find? entity name = some found)
    (targets : found.field.target? = some target) :
    registry.Targets (found.declaring.name, name) target := by
  obtain ⟨mem, declared⟩ := Schema.declared_of_find? finds
  exact ⟨found.declaring, found.field, lineage_registered known mem, declared, targets⟩

/-! ## Sources and joins -/

/-- The entity that a source stands for: the root entity, or the one that the join targets. -/
def entityAt (registry : Registry) (root : String) (plan : JoinPlan) : Source → Option Entity
  | .root => registry.entity? root
  | .join id => (plan.get? id).bind fun join => registry.entity? join.target

/-- The association of a join is found from the entity that the join hangs from, declared by the
owner, and has the join's target, which is known. -/
def TypesJoin (registry : Registry) (root : String) (plan : JoinPlan) (join : Join) : Prop :=
  ∃ entity found, registry.entityAt root plan join.parent = some entity ∧
    registry.schema.find? entity join.association = some found ∧
    found.declaring.name = join.owner ∧ found.field.target? = some join.target ∧
    (registry.entity? join.target).isSome

/-- The name of a column is found from the entity that the column hangs from, and is no
association. -/
def TypesColumn (registry : Registry) (root : String) (plan : JoinPlan) (column : Column) : Prop :=
  ∃ entity found, registry.entityAt root plan column.source = some entity ∧
    registry.schema.find? entity column.name = some found ∧ found.field.isAssociation = false

variable {root : String} {plan plan' : JoinPlan} {source : Source} {key? : Option JoinKey}
variable {entity next : Entity}

theorem registered_of_entityAt (h : registry.entityAt root plan source = some entity) :
    registry.entity? entity.name = some entity := by
  cases source with
  | root =>
    rw [name_of_entity? h]
    exact h
  | join id =>
    obtain ⟨join, -, known⟩ := Option.bind_eq_some_iff.mp h
    rw [name_of_entity? known]
    exact known

theorem entityAt_mono (grown : plan.joins <+: plan'.joins)
    (h : registry.entityAt root plan source = some entity) :
    registry.entityAt root plan' source = some entity := by
  cases source with
  | root => exact h
  | join id =>
    obtain ⟨join, found, known⟩ := Option.bind_eq_some_iff.mp h
    exact Option.bind_eq_some_iff.mpr ⟨join, JoinPlan.get?_of_isPrefix grown found, known⟩

theorem TypesJoin.mono (grown : plan.joins <+: plan'.joins) {join : Join}
    (h : registry.TypesJoin root plan join) : registry.TypesJoin root plan' join := by
  obtain ⟨entity, found, hangs, finds⟩ := h
  exact ⟨entity, found, entityAt_mono grown hangs, finds⟩

theorem TypesColumn.mono (grown : plan.joins <+: plan'.joins) {column : Column}
    (h : registry.TypesColumn root plan column) : registry.TypesColumn root plan' column := by
  obtain ⟨entity, found, hangs, finds⟩ := h
  exact ⟨entity, found, entityAt_mono grown hangs, finds⟩

/-- A typed join has the target that its key is declared with. -/
theorem TypesJoin.targets {join : Join} (h : registry.TypesJoin root plan join) :
    registry.Targets join.key join.target := by
  obtain ⟨entity, found, hangs, finds, owner, targets, -⟩ := h
  rw [Join.key, ← owner]
  exact targets_of_find? (registered_of_entityAt hangs) finds targets

/-! ## Typed plans -/

/-- Every join of the plan is typed. -/
def Types (registry : Registry) (root : String) (plan : JoinPlan) : Prop :=
  ∀ join ∈ plan.joins, registry.TypesJoin root plan join

theorem exists_found_of_crosses {hop : Hop} (crosses : registry.schema.Crosses entity hop next) :
    ∃ found, registry.schema.find? entity hop.association = some found ∧
      found.declaring.name = hop.owner ∧ found.field.target? = some hop.target ∧
      registry.entity? hop.target = some next := by
  cases crosses with
  | intro finds targets known =>
    obtain rfl := name_of_entity? known
    exact ⟨_, finds, rfl, targets, known⟩

/-- Crossing an association leads to the entity that the association leads to, whether its join is
new or was made from elsewhere. -/
theorem Types.cross (typed : registry.Types root plan) (wf : plan.WellFormed)
    (at_source : registry.entityAt root plan source = some entity) {hop : Hop}
    (crosses : registry.schema.Crosses entity hop next) :
    registry.Types root (plan.cross source hop).1 ∧
      registry.entityAt root (plan.cross source hop).1 (plan.cross source hop).2.1 =
        some next := by
  obtain ⟨found, finds, owner, targets, known⟩ := exists_found_of_crosses crosses
  rcases JoinPlan.cross_cases wf source hop with ⟨id, join, at_id, same, eq⟩ | ⟨-, eq⟩
  · rw [eq]
    refine ⟨typed, Option.bind_eq_some_iff.mpr ⟨join, at_id, ?_⟩⟩
    -- wherever the join was made, it was made for this declaration
    have made := (typed join (JoinPlan.mem_of_get? at_id)).targets
    have declared := targets_of_find? (registered_of_entityAt at_source) finds targets
    rw [same, Hop.key, ← owner] at made
    rw [made.unique declared]
    exact known
  · rw [eq]
    have grown : plan.joins <+: plan.joins ++ [plan.next source hop] := List.prefix_append _ _
    refine ⟨?_, Option.bind_eq_some_iff.mpr ⟨_, JoinPlan.get?_append_next plan source hop, known⟩⟩
    intro join mem
    rcases List.mem_append.mp mem with old | new
    · exact (typed join old).mono grown
    · obtain rfl := List.mem_singleton.mp new
      exact ⟨entity, found, entityAt_mono grown at_source, finds, owner, targets,
        Option.isSome_of_mem known⟩

/-- Associations that lead from one entity to another lead from a source to a source so. -/
theorem Types.walk (typed : registry.Types root plan) (wf : plan.WellFormed)
    (ends : plan.Ends key? source) (at_source : registry.entityAt root plan source = some entity)
    {hops : List Hop} {last : Entity} (leads : registry.schema.Leads entity hops last) :
    registry.Types root (plan.walk source hops).1 ∧
      registry.entityAt root (plan.walk source hops).1 (plan.walk source hops).2.1 =
        some last := by
  induction leads generalizing plan source key? with
  | here => exact ⟨typed, at_source⟩
  | @across _ _ _ hop hops crosses _ ih =>
    obtain ⟨wf', -, ends'⟩ := wf.cross ends hop
    obtain ⟨typed', at_next⟩ := typed.cross wf at_source crosses
    rw [JoinPlan.walk_cons]
    exact ih typed' wf' ends' at_next

/-- A route that leads to a column hangs a typed column. -/
theorem Types.hang (typed : registry.Types root plan) (wf : plan.WellFormed) {route : Route}
    (known : registry.entity? root = some entity)
    (arrives : registry.schema.Arrives entity route) :
    registry.Types root (plan.hang route).1 ∧
      registry.TypesColumn root (plan.hang route).1 (plan.hang route).2 := by
  obtain ⟨last, found, leads, finds, column, -⟩ := arrives
  obtain ⟨typed', at_last⟩ := typed.walk wf .root known leads
  exact ⟨typed', last, found, at_last, finds, column⟩

/-- Routes that lead to columns make a typed plan with typed columns. -/
theorem Types.hangAll {trails : List Trail} (typed : registry.Types root plan)
    (traced : plan.Traced trails) {routes : List Route}
    (known : registry.entity? root = some entity)
    (arrive : ∀ route ∈ routes, registry.schema.Arrives entity route) :
    registry.Types root (plan.hangAll routes).1 ∧
      ∀ column ∈ (plan.hangAll routes).2,
        registry.TypesColumn root (plan.hangAll routes).1 column := by
  induction routes generalizing plan trails with
  | nil => exact ⟨typed, nofun⟩
  | cons route rest ih =>
    obtain ⟨hung, typedColumn⟩ := typed.hang traced.wellFormed known
      (arrive route List.mem_cons_self)
    obtain ⟨traced', -, -⟩ := traced.hang route
    obtain ⟨-, grown, -⟩ := traced'.hangAll rest
    obtain ⟨all, typedOthers⟩ := ih hung traced' fun route mem =>
      arrive route (List.mem_cons_of_mem _ mem)
    refine ⟨all, fun column mem => ?_⟩
    rcases List.mem_cons.mp mem with rfl | mem
    · exact typedColumn.mono grown
    · exact typedOthers column mem

end Registry

end Criteria
