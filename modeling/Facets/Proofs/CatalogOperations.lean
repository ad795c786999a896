import Facets.Proofs.CatalogWellFormed
import Facets.Proofs.StoredCatalog

/-!
# Catalogs after any operations

A catalog is a plain list of filters, and a filter a plain list of settings.  That each name and
each key stands once is kept by the operations alone, and this file follows it through every run
of them: filters that are made by hand and inserted, specifications, collections of filters, and
stored catalogs.

* `Filter.Built`: a filter was made from an empty one by `set` and `pushRequirement`.  Whatever
  the readers of specifications and of stored catalogs make is built too.
* `Catalog.Operation.apply`, `Catalog.afterOperations`: one operation, and a run from the empty
  catalog.
* `Catalog.Insertion`: what inserting one filter changes, and what it leaves alone.
-/

namespace Facets

/-! ## How filters are made -/

/-- A filter that was made from an empty one by `set` and `pushRequirement`. -/
inductive Filter.Built : Filter → Prop
  | new (name : Text) : Built (new name)
  | set {f : Filter} (h : f.Built) (k : SettingKey) (v : SettingValue) : Built (f.set k v)
  | pushRequirement {f : Filter} (h : f.Built) (requirement : Text) :
      Built (f.pushRequirement requirement)

namespace Filter

/-- `set` puts a key where it stands already, or adds it once. -/
theorem DistinctKeys.set {f : Filter} (h : f.DistinctKeys) (k : SettingKey) (v : SettingValue) :
    (f.set k v).DistinctKeys := Keyed.nodup_map_put h ⟨k, v⟩

/-- In a filter that is `Built` each key stands once. -/
theorem Built.distinctKeys {f : Filter} (h : f.Built) : f.DistinctKeys := by
  -- By induction on how the filter was made; `pushRequirement` is a `set`.
  induction h with
  | new name => exact List.nodup_nil
  | set _ k v ih => exact ih.set k v
  | @pushRequirement f _ requirement ih =>
    rw [f.pushRequirement_eq]
    exact ih.set _ _

/-- A token that a draft takes makes one more operation, or none. -/
private theorem Draft.built_add {d d' : Draft} {token : Token} (h : d.add token = .ok d')
    (hd : d.filter.Built) : d'.filter.Built := by
  cases token with
  | keyed key value =>
    rw [add] at h
    obtain ⟨k, -, h⟩ := exists_ok_of_bind_eq_ok h
    cases h
    exact hd.set k _
  | bare t =>
    rw [add] at h
    split at h <;> cases h
    · exact hd.pushRequirement t
    · exact hd

/-- `Filter.parse` gives `Built` filters. -/
theorem built_of_parse {name settings : Text} {f : Filter} (h : parse name settings = .ok f) :
    f.Built := by
  obtain ⟨d, hfold, rfl⟩ := exists_draft_of_parse h
  exact foldlM_invariant (P := fun d => d.filter.Built)
    (fun _ _ _ _ hadd hd => Draft.built_add hadd hd) hfold (.new name)

/-- `Filter.ofJson?` gives `Built` filters. -/
theorem built_of_ofJson? {j : Json} {f : Filter} (h : ofJson? j = some f) : f.Built := by
  obtain ⟨name, settings, rfl⟩ := exists_ofSettings_of_ofJson? h
  -- The settings are put one by one on what is built already.
  clear h
  suffices ∀ f : Filter, f.Built →
      (settings.foldl (fun f s => f.set s.key s.value.distinct) f).Built from this _ (.new name)
  induction settings with
  | nil => exact fun _ hf => hf
  | cons s settings ih => exact fun f hf => ih _ (hf.set _ _)

end Filter

namespace Catalog

/-! ## Operations -/

/-- A catalog that the operations can come to: each name stands once, and each filter is `Built`. -/
structure Coherent (c : Catalog) : Prop where
  nodup_names : c.names.Nodup
  built : ∀ f ∈ c.filters, f.Built

/-- An operation on a catalog.  Filters that are inserted or collected come from anywhere, as long
    as they are `Built`. -/
inductive Operation where
  | insert (f : Filter) (built : f.Built)
  /-- Insert the filters that a specification writes. -/
  | parse (t : Text)
  /-- Start anew with some filters. -/
  | collect (fs : List Filter) (built : ∀ f ∈ fs, f.Built)
  /-- Start anew with a stored catalog. -/
  | load (t : Text)

/-- A catalog after an operation; one that is refused leaves it as it is. -/
def Operation.apply (c : Catalog) : Operation → Catalog
  | .insert f _ => c.insert f
  | .parse t =>
    match Catalog.parse t with
    | .ok d => c.insertAll d.filters
    | .error _ => c
  | .collect fs _ => ofList fs
  | .load t => (ofStored? t).getD c

/-- The catalog after some operations, from the empty one on. -/
def afterOperations (ops : List Operation) : Catalog := ops.foldl Operation.apply empty

/-- The empty catalog is `Coherent`. -/
private theorem coherent_empty : empty.Coherent := ⟨List.nodup_nil, by simp [empty]⟩

/-- `Catalog.insert` keeps a catalog `Coherent`. -/
private theorem Coherent.insert {c : Catalog} (h : c.Coherent) {f : Filter} (hf : f.Built) :
    (c.insert f).Coherent where
  nodup_names := Keyed.nodup_map_put h.nodup_names f
  built g hg := by
    rcases Keyed.mem_put hg with rfl | hg
    · exact hf
    · exact h.built g hg

/-- So does `Catalog.insertAll`, one filter after the other. -/
theorem Coherent.insertAll {c : Catalog} (h : c.Coherent) {fs : List Filter}
    (hfs : ∀ f ∈ fs, f.Built) : (c.insertAll fs).Coherent := by
  induction fs generalizing c with
  | nil => exact h
  | cons f fs ih =>
    have hf : (c.insert f).Coherent := h.insert (hfs f List.mem_cons_self)
    exact ih hf fun g hg => hfs g (List.mem_cons_of_mem f hg)

/-- `parse` gives a `Coherent` catalog, whatever became of filters that were replaced. -/
theorem coherent_of_parse {t : Text} {c : Catalog} (h : parse t = .ok c) : c.Coherent := by
  refine foldlM_invariant (P := Coherent) (fun c g c' _ hadd hc => ?_) h coherent_empty
  obtain ⟨f, hf, hadd⟩ := exists_ok_of_bind_eq_ok hadd
  cases hadd
  split
  · exact hc
  · exact hc.insert (Filter.built_of_parse hf)

/-- `ofStored?` gives a `Coherent` catalog. -/
private theorem coherent_of_ofStored? {t : Text} {c : Catalog} (h : ofStored? t = some c) :
    c.Coherent := by
  obtain ⟨j, -, h⟩ := Option.bind_eq_some_iff.mp h
  obtain ⟨js, -, h⟩ := Option.bind_eq_some_iff.mp h
  obtain ⟨fs, hfs, h⟩ := Option.bind_eq_some_iff.mp h
  cases h
  refine coherent_empty.insertAll fun f hf => ?_
  obtain ⟨j, -, hj⟩ := exists_of_mem_mapM hfs hf
  exact Filter.built_of_ofJson? hj

/-- Each `Operation` keeps a catalog `Coherent`. -/
theorem Coherent.apply {c : Catalog} (h : c.Coherent) (op : Operation) :
    (op.apply c).Coherent := by
  cases op with
  | insert f built => exact h.insert built
  | parse t =>
    -- A specification with an error is refused as a whole.
    simp only [Operation.apply]
    split
    · rename_i hparse
      exact h.insertAll (coherent_of_parse hparse).built
    · exact h
  | collect fs built => exact coherent_empty.insertAll built
  | load t =>
    rw [Operation.apply]
    cases hload : ofStored? t with
    | none => exact h
    | some d => exact coherent_of_ofStored? hload

/-- Hence all operations one after the other do. -/
theorem coherent_afterOperations (ops : List Operation) : (afterOperations ops).Coherent := by
  suffices ∀ c : Catalog, c.Coherent → (ops.foldl Operation.apply c).Coherent from
    this _ coherent_empty
  induction ops with
  | nil => exact fun _ hc => hc
  | cons op ops ih => exact fun c hc => ih _ (hc.apply op)

/-! ## One insertion -/

/-- What inserting a filter does to a catalog `c`, with `c'` being the catalog after it. -/
structure Insertion (f : Filter) (c c' : Catalog) : Prop where
  /-- Filters of other names stay as they are, in their order. -/
  others : c'.filters.filter (·.name ≠ f.name) = c.filters.filter (·.name ≠ f.name)
  /-- Names that were there keep their places. -/
  names : c'.names = if f.name ∈ c.names then c.names else c.names ++ [f.name]
  /-- The filter comes last, or takes the place of the one of its name. -/
  place : (f.name ∉ c.names ∧ c'.filters = c.filters ++ [f]) ∨
    ∃ before old after, c.filters = before ++ old :: after ∧ old.name = f.name ∧
      f.name ∉ before.map Filter.name ∧ c'.filters = before ++ f :: after
  get : c'.get? f.name = some f

/-- `Catalog.insert` makes an `Insertion`. -/
private theorem insertion_insert (c : Catalog) (f : Filter) : Insertion f c (c.insert f) := by
  have hothers := Keyed.filter_put Filter.name f c.filters
  have hplace := Keyed.put_eq Filter.name f c.filters
  -- Names are what `Keyed.put` makes of keys.
  refine ⟨hothers, ?_, hplace, ?_⟩
  · rw [names_insert, addNew]
    congr
  · rw [get?_insert, if_pos rfl]

/-- `afterOperations` comes to a catalog in which each name stands once, and each key of a filter,
    and every filter is again one that may be inserted or collected.  A single `Catalog.insert`
    changes the filter of one name only. -/
theorem operations_keep_distinct :
    (∀ ops, (afterOperations ops).DistinctKeys ∧ ∀ f ∈ (afterOperations ops).filters, f.Built) ∧
      ∀ (c : Catalog) (f : Filter), Insertion f c (c.insert f) := by
  refine ⟨fun ops => ?_, insertion_insert⟩
  have h := coherent_afterOperations ops
  exact ⟨⟨h.nodup_names, fun f hf => (h.built f hf).distinctKeys⟩, h.built⟩

end Catalog

end Facets
