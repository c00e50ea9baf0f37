import Criteria.Proofs.Filter.Validation
import Criteria.Proofs.Lists

/-!
# Inherited fields

A model inherits from models that may inherit themselves, so a filter is declared by a tree of
models, the `FilterTree`. However the names in it overlap, the model that is built has for a name
the declaration that comes first in the tree, and it repeats no name that its own fields do not
repeat: `FilterTree.Inherits`.
-/

namespace Criteria

/-- A filter model as it is declared: its own fields, and the models that it inherits from, each
declared likewise. -/
inductive FilterTree where
  | declare (name : String) (own : List FilterField) (parents : List FilterTree)

namespace FilterTree

def name : FilterTree → String
  | declare name _ _ => name

/-- The fields that a model declares itself. -/
def own : FilterTree → List FilterField
  | declare _ own _ => own

/-- The model with all that it inherits. -/
def build : FilterTree → FilterModel
  | declare name own parents => .extending name own (parents.map build)

/-- All declarations in the order of the tree: own ones, then those of each parent in turn. -/
def declarations : FilterTree → List FilterField
  | declare _ own parents => own ++ parents.flatMap declarations

/-- A field is declared by the model itself or by one that it inherits from, however far up. -/
inductive Declares : FilterTree → FilterField → Prop
  | own {name : String} {own : List FilterField} {parents : List FilterTree} {field : FilterField}
      (mem : field ∈ own) : Declares (declare name own parents) field
  | inherited {name : String} {own : List FilterField} {parents : List FilterTree}
      {parent : FilterTree} {field : FilterField} (mem : parent ∈ parents)
      (above : Declares parent field) : Declares (declare name own parents) field

end FilterTree

/-! ## Fields taken over -/

namespace FilterModel

variable {own fields : List FilterField} {field : FilterField}

theorem adopt_of_known (known : ∃ other ∈ fields, other.name = field.name) :
    adopt fields field = fields := if_pos (by simpa using known)

theorem adopt_of_new (new : ¬ ∃ other ∈ fields, other.name = field.name) :
    adopt fields field = fields ++ [field] := if_neg (by simpa using new)

/-- Names are found as if a field were always taken over. -/
theorem find?_adopt (n : String) :
    (adopt fields field).find? (·.name = n) = (fields ++ [field]).find? (·.name = n) := by
  by_cases known : ∃ other ∈ fields, other.name = field.name
  · rw [adopt_of_known known, List.find?_append]
    by_cases named : field.name = n
    · have found : (fields.find? (·.name = n)).isSome := by
        rw [List.find?_isSome]
        obtain ⟨other, mem, same⟩ := known
        exact ⟨other, mem, decide_eq_true (same.trans named)⟩
      rw [Option.or_of_isSome found]
    · rw [List.find?_singleton, if_neg (by simpa using named), Option.or_none]
  · rw [adopt_of_new known]

theorem find?_foldl_adopt (inherited : List FilterField) (n : String) :
    (inherited.foldl adopt own).find? (·.name = n) = (own ++ inherited).find? (·.name = n) := by
  induction inherited generalizing own with
  | nil => rw [List.append_nil, List.foldl_nil]
  | cons field rest ih =>
    rw [List.foldl_cons, ih, List.find?_append, find?_adopt, ← List.find?_append,
      List.append_assoc, List.singleton_append]

/-- Fields that begin with own ones, after which only distinct names follow that are new to them. -/
def Extends (own fields : List FilterField) : Prop :=
  ∃ taken, fields = own ++ taken ∧ (taken.map (·.name)).Nodup ∧
    ∀ name ∈ taken.map (·.name), name ∉ own.map (·.name)

theorem Extends.refl (own : List FilterField) : Extends own own :=
  ⟨[], (List.append_nil own).symm, .nil, nofun⟩

theorem Extends.adopt (h : Extends own fields) (field : FilterField) :
    Extends own (adopt fields field) := by
  by_cases known : ∃ other ∈ fields, other.name = field.name
  · rwa [adopt_of_known known]
  · obtain ⟨taken, rfl, nodup, fresh⟩ := h
    rw [adopt_of_new known]
    have new_own : field.name ∉ own.map (·.name) := by
      intro mem
      obtain ⟨other, mem, same⟩ := List.mem_map.mp mem
      exact known ⟨other, List.mem_append_left _ mem, same⟩
    have new_taken : field.name ∉ taken.map (·.name) := by
      intro mem
      obtain ⟨other, mem, same⟩ := List.mem_map.mp mem
      exact known ⟨other, List.mem_append_right _ mem, same⟩
    refine ⟨taken ++ [field], List.append_assoc .., ?_, ?_⟩
    · rw [List.map_append, List.map_singleton, ← List.concat_eq_append]
      exact nodup.concat new_taken
    · intro name mem
      rw [List.map_append, List.map_singleton, List.mem_append, List.mem_singleton] at mem
      rcases mem with mem | rfl
      · exact fresh name mem
      · exact new_own

theorem extends_foldl_adopt (inherited : List FilterField) (h : Extends own fields) :
    Extends own (inherited.foldl FilterModel.adopt fields) := by
  induction inherited generalizing fields with
  | nil => exact h
  | cons field rest ih => exact ih (h.adopt field)

end FilterModel

namespace FilterTree

/-! ## Trees of models -/

theorem fields_build (name : String) (own : List FilterField) (parents : List FilterTree) :
    (declare name own parents).build.fields =
      (parents.flatMap (·.build.fields)).foldl FilterModel.adopt own := by
  rw [build, FilterModel.extending, List.flatMap_map]

/-- A name is found in the model where it comes first in the tree. -/
theorem field?_build (tree : FilterTree) (n : String) :
    tree.build.field? n = tree.declarations.find? (·.name = n) := by
  unfold FilterModel.field?
  induction tree using build.induct with
  | case1 name own parents ih =>
    rw [fields_build, FilterModel.find?_foldl_adopt, declarations, List.find?_append,
      List.find?_append, find?_flatMap_congr ih]

theorem mem_declarations_iff {tree : FilterTree} {field : FilterField} :
    field ∈ tree.declarations ↔ tree.Declares field := by
  constructor
  · intro mem
    induction tree using declarations.induct with
    | case1 name own parents ih =>
      rw [declarations, List.mem_append] at mem
      rcases mem with mem | mem
      · exact .own mem
      · obtain ⟨parent, mem, above⟩ := List.mem_flatMap.mp mem
        exact .inherited mem (ih parent mem above)
  · intro declares
    induction declares with
    | own mem =>
      rw [declarations]
      exact List.mem_append_left _ mem
    | inherited mem _ ih =>
      rw [declarations]
      exact List.mem_append_right _ (List.mem_flatMap.mpr ⟨_, mem, ih⟩)

/-- However the ancestors overlap, own fields come first and nothing is repeated after them. -/
theorem extends_build (tree : FilterTree) : FilterModel.Extends tree.own tree.build.fields := by
  cases tree with
  | declare name own parents =>
    rw [fields_build]
    exact FilterModel.extends_foldl_adopt _ (.refl own)

theorem name_build (tree : FilterTree) : tree.build.name = tree.name := by
  cases tree with
  | declare name own parents => rw [build, FilterModel.extending, FilterTree.name]

/-- The first name that the fields of a model repeat is the first that its own fields repeat. -/
theorem layout_build_eq_duplicateField_iff {tree : FilterTree} {filter n : String} :
    tree.build.layout = .error (.duplicateField filter n) ↔
      filter = tree.name ∧ Names.repeated? (tree.own.map (·.name)) = some n := by
  obtain ⟨taken, fields, nodup, fresh⟩ := tree.extends_build
  rw [FilterModel.layout_eq_duplicateField_iff, name_build, fields, List.map_append,
    Names.repeated?_append nodup fresh]

/-- A model inherits as its tree says. A name leads to its first declaration in the tree, and to
none only if no model of the tree declares it. The fields are the own ones as they are, and then
others with distinct names that no own field has. So the check finds a repeated name only where the
model itself repeats it, and tells the first. -/
structure Inherits (tree : FilterTree) : Prop where
  field?_eq : ∀ n, tree.build.field? n = tree.declarations.find? (·.name = n)
  field?_eq_none_iff : ∀ n,
    tree.build.field? n = none ↔ ¬ ∃ field, tree.Declares field ∧ field.name = n
  fields_eq : ∃ taken, tree.build.fields = tree.own ++ taken ∧ (taken.map (·.name)).Nodup ∧
    ∀ name ∈ taken.map (·.name), name ∉ tree.own.map (·.name)
  refused_iff : (∃ filter n, tree.build.layout = .error (.duplicateField filter n)) ↔
    ¬ (tree.own.map (·.name)).Nodup
  refused_for_iff : ∀ filter n, tree.build.layout = .error (.duplicateField filter n) ↔
    filter = tree.name ∧ Names.repeated? (tree.own.map (·.name)) = some n

/-- Every model does. -/
theorem inherits (tree : FilterTree) : tree.Inherits where
  field?_eq := tree.field?_build
  field?_eq_none_iff n := by
    rw [field?_build, List.find?_eq_none]
    simp only [mem_declarations_iff, decide_eq_true_eq, not_exists, not_and]
  fields_eq := tree.extends_build
  refused_iff := by
    simp only [layout_build_eq_duplicateField_iff, ← Names.repeated?_eq_none_iff,
      ← ne_eq, Option.ne_none_iff_exists']
    constructor
    · rintro ⟨_, n, -, repeated⟩
      exact ⟨n, repeated⟩
    · rintro ⟨n, repeated⟩
      exact ⟨_, n, rfl, repeated⟩
  refused_for_iff _ _ := layout_build_eq_duplicateField_iff

/-- Ancestors may overlap and repeat names, and a criterion may take the name of a carrier. -/
example :
    let base := declare "Base" [.carrier "match", .criterion "id" .uint, .criterion "id" .int] []
    let left := declare "Left" [.criterion "match" .text] [base]
    (declare "Search" [.criterion "name" .text] [left, base]).build.layout = .ok
      { name := "Search"
        criteria := [.criterion "name" .text, .criterion "match" .text, .criterion "id" .uint]
        carrier := none } := by
  cbv

end FilterTree

end Criteria
