import Facets.Proofs.CatalogOperations

/-!
# Requirements pushed onto a filter

Pushing a requirement adds it to those that a filter has, unless it is there, and touches nothing
else.  The value may have been a list, one text, or none at all: it is a list afterwards, and all
three come to the same law on the requirements (`Filter.pushRequirement_eq`).

* `Filter.Pushing`: what one push changes, and what it leaves alone.
* `Filter.requires_foldl_pushRequirement`: what a run of pushes comes to.
-/

namespace Facets.Filter

/-! ## One push -/

/-- The settings of other keys, in order. -/
def otherSettings (f : Filter) : List Setting := f.settings.filter (·.key ≠ .requires)

/-- What pushing a requirement does to a filter, `f'` being the filter after it. -/
structure Pushing (r : Text) (f f' : Filter) : Prop where
  name : f'.name = f.name
  /-- Settings of other keys stay as they are, in their order. -/
  others : f'.otherSettings = f.otherSettings
  /-- The requirements take the place they had, or come last if there were none. -/
  place : (.requires ∉ f.settings.map Setting.key ∧
      f'.settings = f.settings ++ [⟨.requires, .list [r]⟩]) ∨
    ∃ before v after, f.settings = before ++ ⟨.requires, v⟩ :: after ∧
      .requires ∉ (before ++ after).map Setting.key ∧
      f'.settings = before ++ ⟨.requires, .list f'.requires⟩ :: after
  /-- However the requirements were stored, they are stored as a list. -/
  value : f'.get? .requires = some (.list f'.requires)
  requires : f'.requires = if r ∈ f.requires then f.requires else f.requires ++ [r]

/-- Setting the requirements leaves `otherSettings` alone. -/
private theorem otherSettings_set_requires (f : Filter) (v : SettingValue) :
    (f.set .requires v).otherSettings = f.otherSettings :=
  Keyed.filter_put Setting.key ⟨.requires, v⟩ f.settings

/-- A filter whose keys are distinct has its requirements in one place, or nowhere. -/
private theorem DistinctKeys.requires_place {f : Filter} (h : f.DistinctKeys) (v : SettingValue) :
    (.requires ∉ f.settings.map Setting.key ∧ f.requires = [] ∧
        (f.set .requires v).settings = f.settings ++ [⟨.requires, v⟩]) ∨
      ∃ before old after, f.settings = before ++ ⟨.requires, old⟩ :: after ∧
        .requires ∉ (before ++ after).map Setting.key ∧
        (f.set .requires v).settings = before ++ ⟨.requires, v⟩ :: after := by
  rcases Keyed.put_eq Setting.key ⟨.requires, v⟩ f.settings with
    ⟨hnew, hput⟩ | ⟨before, ⟨k, old⟩, after, hsettings, hold, -, hput⟩
  · -- Without the key there is no value of it, and so no requirement.
    refine .inl ⟨hnew, ?_, hput⟩
    have hget : f.get? .requires = none := by
      rw [get?, Keyed.get?_eq_none_iff.mpr hnew]
      rfl
    rw [requires, hget]
    rfl
  · simp only at hold
    subst hold
    refine .inr ⟨before, old, after, hsettings, ?_, hput⟩
    -- Only here it counts that the key stands nowhere else.
    rw [DistinctKeys, hsettings, List.map_append, List.map_cons, List.nodup_middle,
      List.nodup_cons] at h
    rw [List.map_append]
    exact h.1

/-- `pushRequirement` stores the requirements as a list. -/
private theorem get?_pushRequirement (f : Filter) (r : Text) :
    (f.pushRequirement r).get? .requires = some (.list (f.pushRequirement r).requires) := by
  rw [requires_pushRequirement, pushRequirement_eq, get?_set, if_pos rfl]

/-- `pushRequirement` adds the requirement and leaves all else alone. -/
private theorem DistinctKeys.pushing {f : Filter} (h : f.DistinctKeys) (r : Text) :
    Pushing r f (f.pushRequirement r) where
  name := f.name_pushRequirement r
  others := by rw [pushRequirement_eq, otherSettings_set_requires]
  place := by
    rw [requires_pushRequirement, pushRequirement_eq]
    -- The place does not depend on how the requirements were stored before.
    rcases h.requires_place (.list (addNew f.requires r)) with ⟨hnew, hnil, hset⟩ | hold
    · refine .inl ⟨hnew, ?_⟩
      rw [hset, hnil]
      rfl
    · exact .inr hold
  value := f.get?_pushRequirement r
  requires := by
    rw [requires_pushRequirement, addNew]
    congr

/-! ## A run of pushes -/

private theorem name_foldl_pushRequirement (f : Filter) (rs : List Text) :
    (rs.foldl pushRequirement f).name = f.name := by
  induction rs generalizing f with
  | nil => rfl
  | cons r rs ih => rw [List.foldl_cons, ih, name_pushRequirement]

private theorem otherSettings_foldl_pushRequirement (f : Filter) (rs : List Text) :
    (rs.foldl pushRequirement f).otherSettings = f.otherSettings := by
  induction rs generalizing f with
  | nil => rfl
  | cons r rs ih => rw [List.foldl_cons, ih, pushRequirement_eq, otherSettings_set_requires]

/-- A run of `pushRequirement` adds the requirements one after the other. -/
theorem requires_foldl_pushRequirement (f : Filter) (rs : List Text) :
    (rs.foldl pushRequirement f).requires = rs.foldl addNew f.requires := by
  induction rs generalizing f with
  | nil => rfl
  | cons r rs ih => rw [List.foldl_cons, ih, requires_pushRequirement, List.foldl_cons]

/-- However a filter was made, `pushRequirement` adds a requirement at the end of those it has,
    unless it is among them, and changes neither its name nor any other setting.  So any run of
    pushes adds the new requirements in the order in which they first come, and repeats none. -/
theorem pushes_append_new {f : Filter} (h : f.Built) :
    (∀ r, Pushing r f (f.pushRequirement r)) ∧
    ∀ rs : List Text,
      (rs.foldl pushRequirement f).name = f.name ∧
      (rs.foldl pushRequirement f).otherSettings = f.otherSettings ∧
      (rs.foldl pushRequirement f).requires =
        f.requires ++ (rs.filter (· ∉ f.requires)).eraseDups ∧
      (f.requires.Nodup → (rs.foldl pushRequirement f).requires.Nodup) := by
  refine ⟨h.distinctKeys.pushing, fun rs => ?_⟩
  have hrun := f.requires_foldl_pushRequirement rs
  refine ⟨f.name_foldl_pushRequirement rs, f.otherSettings_foldl_pushRequirement rs, ?_,
    fun hnodup => ?_⟩
  · rw [hrun, foldl_addNew_eq]
  · rw [hrun]
    exact nodup_foldl_addNew hnodup rs

/-- One text becomes a list in its place between two other settings, and is not repeated when it is
    pushed again among new ones. -/
theorem pushes_append_new_scalar :
    let f := (((new "F".toList).set .group (.scalar "g".toList)).set .requires
      (.scalar "a".toList)).set .category (.scalar "c".toList)
    let rs := ["a".toList, "b".toList, "a".toList, "c".toList, "b".toList]
    f.Built ∧ f.requires.Nodup ∧ Pushing "a".toList f (f.pushRequirement "a".toList) ∧
      (rs.foldl pushRequirement f).requires = ["a".toList, "b".toList, "c".toList] ∧
      (rs.foldl pushRequirement f).requires.Nodup := by
  intro f rs
  have hbuilt : f.Built := .set (.set (.set (.new _) _ _) _ _) _ _
  have hnodup : f.requires.Nodup := by decide
  obtain ⟨hone, hall⟩ := pushes_append_new hbuilt
  obtain ⟨-, -, hrequires, hnodup'⟩ := hall rs
  exact ⟨hbuilt, hnodup, hone _, hrequires.trans (by decide), hnodup' hnodup⟩

end Facets.Filter
