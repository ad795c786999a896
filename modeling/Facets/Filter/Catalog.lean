import Facets.Filter.Basic

/-!
# Catalogs of filters

A catalog holds filters in order, each name once as long as they come from `insert`: a filter
takes the place of an earlier one of its name.
-/

namespace Facets

/-- The filters of a page, in order. -/
structure Catalog where
  filters : List Filter
deriving DecidableEq, Inhabited

namespace Catalog

/-- The catalog without filters. -/
def empty : Catalog := ⟨[]⟩

/-- The number of filters. -/
def size (c : Catalog) : Nat := c.filters.length

/-- Whether a catalog has no filters. -/
def isEmpty (c : Catalog) : Bool := c.filters.isEmpty

/-- The names of the filters, in order. -/
def names (c : Catalog) : List Text := c.filters.map Filter.name

/-- The filter of a name. -/
def get? (c : Catalog) (name : Text) : Option Filter := Keyed.get? Filter.name name c.filters

/-- A catalog with a filter in place of the one of its name, or at the end. -/
def insert (c : Catalog) (f : Filter) : Catalog := ⟨Keyed.put Filter.name f c.filters⟩

/-- A catalog with some filters inserted, one after the other. -/
def insertAll (c : Catalog) (fs : List Filter) : Catalog :=
  ⟨Keyed.putAll Filter.name c.filters fs⟩

/-- The catalog of some filters, of which the last one of each name counts. -/
def ofList (fs : List Filter) : Catalog := empty.insertAll fs

/-- A catalog as a specification writes it. -/
def display (c : Catalog) : Text := Text.join ", ".toList (c.filters.map Filter.display)

/-! ## Looking up what was inserted -/

/-- `get?` finds the filter that `insert` put under its name, and filters of other names as before.
    -/
theorem get?_insert (c : Catalog) (f : Filter) (name : Text) :
    (c.insert f).get? name = if f.name = name then some f else c.get? name :=
  Keyed.get?_put Filter.name f name c.filters

/-- `insert` puts a new name last, and leaves a name that is there in its place. -/
theorem names_insert (c : Catalog) (f : Filter) :
    (c.insert f).names = addNew c.names f.name :=
  Keyed.map_put Filter.name f c.filters

end Catalog

end Facets
