import Criteria.Proofs.Compilation.Typing
import Criteria.Proofs.Filter.Layout

/-!
# What comes later only appends

Criteria are taken in order, and the sort keys after them. Nothing that is there is touched again:
the joins and predicates that the first criteria make are the first of the specification, whatever
criteria, added predicates and sort keys come after, and added predicates leave the order alone.
-/

namespace Criteria

/-- The other values are those of a filter cut off after its first criteria: the carrier and these
criteria keep their values, and all later criteria have none. -/
structure FilterLayout.CutOff (layout : FilterLayout) (count : Nat) (values cut : FilterValue) :
    Prop where
  carrier : ∀ carrier, layout.carrier = some carrier → cut carrier = values carrier
  kept : ∀ field ∈ layout.criteria.take count, cut field.name = values field.name
  dropped : ∀ field ∈ layout.criteria.drop count, cut field.name = .null

/-- The specification begins as another one does: with its joins and with its predicates. -/
structure Specification.Extends (spec first : Specification) : Prop where
  joins : first.joins <+: spec.joins
  predicates : first.predicates <+: spec.predicates

namespace FilterLayout

variable {layout : FilterLayout} {count : Nat} {values cut : FilterValue}

/-- The fields that are set in a filter cut off are the set ones among its first. -/
theorem CutOff.filter_isSet (cuts : layout.CutOff count values cut) :
    layout.criteria.filter (·.isSet cut) =
      (layout.criteria.take count).filter (·.isSet values) := by
  have first : ∀ field ∈ layout.criteria.take count, field.isSet cut = field.isSet values := by
    intro field mem
    rw [FilterField.isSet, cuts.kept field mem, FilterField.isSet]
  have later : ∀ field ∈ layout.criteria.drop count, ¬ field.isSet cut := by
    intro field mem set
    exact (FilterField.isSet_iff.mp set).2 (cuts.dropped field mem)
  calc layout.criteria.filter (·.isSet cut)
      = (layout.criteria.take count ++ layout.criteria.drop count).filter (·.isSet cut) := by
        rw [List.take_append_drop]
    _ = (layout.criteria.take count).filter (·.isSet cut) := by
        rw [List.filter_append, List.filter_eq_nil_iff.mpr later, List.append_nil]
    _ = (layout.criteria.take count).filter (·.isSet values) := List.filter_congr first

/-- The set criteria of a filter begin with those of the filter cut off, and the others are among
the criteria cut off. -/
theorem CutOff.setCriteria_eq (cuts : layout.CutOff count values cut) :
    layout.setCriteria values = layout.setCriteria cut ++
      ((layout.criteria.drop count).filter (·.isSet values)).map (Criterion.ofField values) := by
  have same : ∀ field ∈ (layout.criteria.take count).filter (·.isSet values),
      Criterion.ofField cut field = Criterion.ofField values field := by
    intro field mem
    rw [Criterion.ofField, cuts.kept field (List.mem_filter.mp mem).1, Criterion.ofField]
  rw [FilterLayout.setCriteria_eq, FilterLayout.setCriteria_eq, cuts.filter_isSet,
    List.map_congr_left same, ← List.map_append, ← List.filter_append, List.take_append_drop]

end FilterLayout

/-! ## Specifications of more parts -/

namespace Request

variable (request : Request) (demands more : List (Route × Comparison)) (ways : List Route)

/-- Parts that come later append joins and predicates, the added predicates last. -/
theorem extends_specification (values : FilterValue) :
    (request.specification (demands ++ more) ways).Extends
      ({ request with values, extra := [], sort := [] }.specification demands []) := by
  obtain ⟨traced, -, -⟩ := JoinPlan.traced_empty.hangAll (demands.map (·.1))
  obtain ⟨traced', grown, -⟩ := traced.hangAll (more.map (·.1))
  obtain ⟨-, grown', -⟩ := traced'.hangAll ways
  constructor
  case joins =>
    simp only [specification, List.map_append, JoinPlan.hangAll_append]
    exact grown.trans grown'
  case predicates =>
    simp only [specification, List.map_append, JoinPlan.hangAll_append, List.append_nil]
    rw [List.zipWith_append (by simp), List.append_assoc]
    exact List.prefix_append _ _

end Request

namespace Compiler

variable {compiler : Compiler} {cache cache' : LayoutCache} {request : Request}
  {layout : FilterLayout}

/-- The parts of a filter cut off are the first parts of the filter. -/
theorem Parts.exists_cut (parts : compiler.Parts cache request) {count : Nat} {cut : FilterValue}
    (found : compiler.layout cache' request.type = .ok parts.layout)
    (cuts : parts.layout.CutOff count request.values cut) :
    ∃ first : compiler.Parts cache' { request with values := cut, extra := [], sort := [] },
      first.ways = [] ∧ ∃ more, parts.demands = first.demands ++ more ∧
        (parts.layout.criteria.length ≤ count → more = []) := by
  have asked := parts.demands_eq
  rw [cuts.setCriteria_eq, List.mapM_append] at asked
  obtain ⟨demands, first_asked, asked⟩ := bind_eq_ok_iff.mp asked
  obtain ⟨more, more_asked, split⟩ := bind_eq_ok_iff.mp asked
  have carried : parts.layout.overrides cut = .ok parts.overrides := by
    rw [FilterLayout.overrides_congr cuts.carrier, parts.overrides_eq]
  refine ⟨⟨parts.layout, parts.overrides, demands, [], found, carried, parts.root_known,
    first_asked, rfl⟩, rfl, more, (Except.ok.inj split).symm, ?_⟩
  intro all
  rw [List.drop_eq_nil_of_le all] at more_asked
  exact (Except.ok.inj more_asked).symm

/-- The parts of a request with other added predicates. -/
def Parts.withExtra (parts : compiler.Parts cache request)
    (found : compiler.layout cache' request.type = .ok parts.layout) (extra : List Predicate) :
    compiler.Parts cache' { request with extra } :=
  ⟨parts.layout, parts.overrides, parts.demands, parts.ways, found, parts.overrides_eq,
    parts.root_known, parts.demands_eq, parts.ways_eq⟩

/-- The specification of a request begins with that of its first criteria alone, which compile by
themselves. When these are all criteria, only the added predicates follow on the predicates, and
only the sort keys make more joins. Other added predicates change neither joins nor order. -/
theorem extends_of_compile {spec : Specification} {count : Nat} {cut : FilterValue}
    (h : (compiler.compile cache request).2.outcome = .ok spec)
    (found : compiler.layout cache request.type = .ok layout)
    (found' : compiler.layout cache' request.type = .ok layout)
    (cuts : layout.CutOff count request.values cut) :
    (∃ first, (compiler.compile cache'
        { request with values := cut, extra := [], sort := [] }).2.outcome = .ok first ∧
      spec.Extends first ∧
      (layout.criteria.length ≤ count → spec.predicates = first.predicates ++ request.extra ∧
        (request.sort = [] → spec.joins = first.joins))) ∧
    ∀ extra, ∃ other, (compiler.compile cache' { request with extra }).2.outcome = .ok other ∧
      other.joins = spec.joins ∧ other.order = spec.order := by
  obtain ⟨parts, rfl⟩ := compile_eq_ok_iff.mp h
  obtain rfl := Except.ok.inj (found.symm.trans parts.layout_eq)
  constructor
  · obtain ⟨first, unsorted, more, split, all⟩ := parts.exists_cut found' cuts
    refine ⟨_, compile_eq_ok_iff.mpr ⟨first, rfl⟩, ?_, ?_⟩
    · rw [unsorted, split]
      exact request.extends_specification first.demands more parts.ways cut
    · intro whole
      rw [unsorted, split, all whole, List.append_nil]
      refine ⟨?_, fun none => ?_⟩
      · simp only [Request.specification, List.append_nil]
      · have ways : parts.ways = [] := by
          have forall₂ := parts.forall₂_ways
          rw [none] at forall₂
          exact List.forall₂_nil_left_iff.mp forall₂
        rw [ways]
        rfl
  · intro extra
    exact ⟨_, compile_eq_ok_iff.mpr ⟨parts.withExtra found' extra, rfl⟩, rfl, rfl⟩

end Compiler

namespace Staff

/-- A search on the department and the boss, sorted by the level of the department's head. -/
def survey : Request :=
  { search "Person" ["department.name", "boss.name"] ["department.head.level"] with
    extra := [.isNotNull (.root "name")] }

/-- The values of the survey without the boss. -/
def surveyCut : FilterValue
  | "department.name" => .text "x"
  | _ => .null

theorem extends_survey : ∃ spec first,
    (compiler.compile ∅ survey).2.outcome = .ok spec ∧
      (compiler.compile ∅
        { survey with values := surveyCut, extra := [], sort := [] }).2.outcome = .ok first ∧
      spec.joins.map (·.path) = ["department", "boss", "department.head"] ∧
      first.joins.map (·.path) = ["department"] ∧ spec.Extends first := by
  let layout : FilterLayout := ⟨"Search", survey.type.model.fields, none⟩
  have compiled : (compiler.compile ∅ survey).2.outcome = .ok _ := rfl
  have found : compiler.layout ∅ survey.type = .ok layout := rfl
  have cuts : layout.CutOff 1 survey.values surveyCut := by
    refine ⟨nofun, ?_, ?_⟩
    · rintro field (_ | ⟨_, ⟨⟩⟩)
      rfl
    · rintro field (_ | ⟨_, ⟨⟩⟩)
      rfl
  obtain ⟨⟨first, compiled', begins, -⟩, -⟩ :=
    Compiler.extends_of_compile compiled found found cuts
  obtain rfl := Except.ok.inj (compiled'.symm.trans rfl)
  exact ⟨_, _, compiled, compiled', rfl, rfl, begins⟩

end Staff

end Criteria
