import Criteria.Filter.Layout

/-!
# The cache of layouts

Layouts are remembered by the identity of the filter type. The first layout made for a type stays,
whatever model the type declares later; a model that fails its check is not remembered.
-/

namespace Criteria

/-- What tells a filter type from every other one, whatever names the two are shown by. -/
structure TypeId where
  number : Nat
deriving DecidableEq, Repr

/-- A filter type: its identity, the name it is shown by, and the model it declares. -/
structure FilterType where
  id : TypeId
  name : String
  model : FilterModel

/-- The layouts remembered by filter type, and how often one was found or had to be made. The
counts are taken never to wrap around. -/
structure LayoutCache where
  layouts : List (TypeId × FilterLayout)
  hits : Nat
  misses : Nat
deriving DecidableEq

/-- A layout, and whether it was remembered. -/
structure LayoutLookup where
  layout : FilterLayout
  hit : Bool
deriving DecidableEq

namespace LayoutCache

def empty : LayoutCache := ⟨[], 0, 0⟩

instance : EmptyCollection LayoutCache := ⟨empty⟩
instance : Inhabited LayoutCache := ⟨∅⟩

/-- The layout remembered for a filter type. -/
def get? (cache : LayoutCache) (type : TypeId) : Option FilterLayout := cache.layouts.lookup type

def size (cache : LayoutCache) : Nat := cache.layouts.length

/-- The layout of a filter type, remembered or now made and remembered. -/
def find (cache : LayoutCache) (type : FilterType) :
    LayoutCache × Except FilterError LayoutLookup :=
  match cache.get? type.id with
  | some layout => ({ cache with hits := cache.hits + 1 }, .ok ⟨layout, true⟩)
  | none =>
    match type.model.layout with
    | .error error => (cache, .error error)
    | .ok layout =>
      ({ cache with
          layouts := (type.id, layout) :: cache.layouts
          misses := cache.misses + 1 },
        .ok ⟨layout, false⟩)

/-- The layout of a filter type, remembered only if `remember` says so. Otherwise the model is
checked and the cache stays as it is. -/
def lookup (cache : LayoutCache) (remember : Bool) (type : FilterType) :
    LayoutCache × Except FilterError LayoutLookup :=
  if remember then cache.find type
  else (cache, type.model.layout.map fun layout => ⟨layout, false⟩)

end LayoutCache

end Criteria
