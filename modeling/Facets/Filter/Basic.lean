import Facets.Filter.Setting

/-!
# Filters

A filter has a name and settings in order, each key once as long as the settings come from `set`
and `pushRequirement`.  Setting a key again keeps its place.
-/

namespace Facets

/-- A filter. -/
structure Filter where
  name : Text
  settings : List Setting
deriving DecidableEq, Inhabited

namespace Filter

/-- A filter without settings. -/
def new (name : Text) : Filter := ⟨name, []⟩

/-- Whether a filter has no settings. -/
def isEmpty (f : Filter) : Bool := f.settings.isEmpty

/-- The value of a key. -/
def get? (f : Filter) (k : SettingKey) : Option SettingValue :=
  (Keyed.get? Setting.key k f.settings).map Setting.value

/-- A filter with a key set to a value. -/
def set (f : Filter) (k : SettingKey) (v : SettingValue) : Filter :=
  { f with settings := Keyed.put Setting.key ⟨k, v⟩ f.settings }

/-- The requirements of a filter; a scalar is one. -/
def requires (f : Filter) : List Text := ((f.get? .requires).map SettingValue.toList).getD []

/-- A filter with one more requirement, unless it has it; the requirements are a list then. -/
def pushRequirement (f : Filter) (requirement : Text) : Filter :=
  match f.get? .requires with
  | some (.list items) =>
    if items.contains requirement then f else f.set .requires (.list (items ++ [requirement]))
  | some (.scalar item) => f.set .requires (.list (addNew [item] requirement))
  | none => { f with settings := f.settings ++ [⟨.requires, .list [requirement]⟩] }

/-- The value of a key if it is no list. -/
def scalar? (f : Filter) (k : SettingKey) : Option Text := (f.get? k).bind SettingValue.asScalar?

/-- The property that a filter goes by. -/
def property? (f : Filter) : Option Text := f.scalar? .property

/-- The category that a filter takes its values from. -/
def category? (f : Filter) : Option Text := f.scalar? .category

/-- The group that a filter is shown in. -/
def group? (f : Filter) : Option Text := f.scalar? .group

/-- A filter as a specification writes it. -/
def display (f : Filter) : Text :=
  f.name ++ '(' :: Text.join [','] (f.settings.map Setting.display) ++ [')']

/-! ## Reading what was set -/

/-- `get?` finds the value that `set` gave a key, and under other keys what was there. -/
theorem get?_set (f : Filter) (k k' : SettingKey) (v : SettingValue) :
    (f.set k v).get? k' = if k = k' then some v else f.get? k' := by
  simp only [set, get?, Keyed.get?_put]
  split <;> rfl

/-- `set` changes nothing if the key has that value. -/
theorem set_of_get?_eq_some {f : Filter} {k : SettingKey} {v : SettingValue}
    (h : f.get? k = some v) : f.set k v = f := by
  obtain ⟨⟨k', v'⟩, hfind, rfl⟩ := Option.map_eq_some_iff.mp h
  have hkey : k' = k := by simpa using List.find?_some hfind
  subst hkey
  rw [set, Keyed.put_of_get?_eq_some hfind]

/-- `set` puts a key that has no value at the end. -/
theorem set_of_get?_eq_none {f : Filter} {k : SettingKey} (h : f.get? k = none)
    (v : SettingValue) : f.set k v = { f with settings := f.settings ++ [⟨k, v⟩] } := by
  have hfind : Keyed.get? Setting.key k f.settings = none := Option.map_eq_none_iff.mp h
  rw [set, Keyed.put_of_get?_eq_none hfind]

/-- Whatever the requirements were stored as, `pushRequirement` sets one more among them. -/
theorem pushRequirement_eq (f : Filter) (r : Text) :
    f.pushRequirement r = f.set .requires (.list (addNew f.requires r)) := by
  cases hget : f.get? .requires with
  | none =>
    have hnil : f.requires = [] := by
      rw [requires, hget]
      rfl
    rw [pushRequirement, hget, hnil, set_of_get?_eq_none hget]
    rfl
  | some v =>
    have hitems : f.requires = v.toList := by
      rw [requires, hget]
      rfl
    rw [pushRequirement, hget, hitems]
    cases v with
    | scalar item => rfl
    | list items =>
      simp only [SettingValue.toList, List.contains_iff_mem]
      by_cases hr : r ∈ items
      · rw [if_pos hr, addNew, if_pos hr, set_of_get?_eq_some hget]
      · rw [if_neg hr, addNew, if_neg hr]

theorem name_pushRequirement (f : Filter) (r : Text) : (f.pushRequirement r).name = f.name := by
  rw [pushRequirement_eq, set]

/-- `pushRequirement` puts one more requirement after those that are there. -/
theorem requires_pushRequirement (f : Filter) (r : Text) :
    (f.pushRequirement r).requires = addNew f.requires r := by
  rw [pushRequirement_eq, requires, get?_set, if_pos rfl]
  rfl

end Filter

end Facets
