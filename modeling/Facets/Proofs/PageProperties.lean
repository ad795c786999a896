import Facets.Proofs.InfoArguments
import Facets.Proofs.SpecificationRoundtrip
import Facets.Proofs.StoredCatalog

/-!
# What the properties of a page keep

A wiki stores the browse settings of a category as page properties.  The first one is the stored
catalog, from which the filters are read back, and each of the others is one field.  So nothing
is lost: settings with the same properties are the same (`Info.eq_of_pageProperties_eq`).
-/

namespace Facets

/-! ## Catalogs that are read back -/

/-- A `WellFormed` catalog has each name and key once, and no repeated items. -/
theorem Catalog.WellFormed.distinct {c : Catalog} (h : c.WellFormed) :
    c.DistinctKeys ∧ c.DistinctItems := by
  refine ⟨⟨h.nodup_names, fun f hf => (h.filters f hf).nodup_keys⟩, fun f hf s hs => ?_⟩
  cases (h.filters f hf).settings s hs with
  | scalar key_ne item => exact trivial
  | list nodup items equals_not_mem => exact nodup

/-- `ofStored?` reads a catalog without repetitions back as it was. -/
private theorem Catalog.ofStored?_stored_of_distinct {c : Catalog}
    (h : c.DistinctKeys ∧ c.DistinctItems) :
    ofStored? c.stored = some c := (ofStored?_stored_iff h.1).mpr h.2

/-! ## Browse settings -/

namespace Info

/-- The filters of browse settings have been read by `Catalog.parse`. -/
private theorem exists_parse_of_build {params : List Param} {i : Info} (h : build params = .ok i) :
    ∃ t, Catalog.parse t = .ok i.filters := ⟨_, (Draft.info_eq_ok h).1⟩

/-- The filters that `Info.build` gives are read back from what they are stored as. -/
private theorem ofStored?_stored_filters {params : List Param} {i : Info}
    (h : build params = .ok i) : Catalog.ofStored? i.filters.stored = some i.filters := by
  obtain ⟨t, ht⟩ := exists_parse_of_build h
  have hwf := Catalog.wellFormed_of_parse ht
  exact Catalog.ofStored?_stored_of_distinct hwf.distinct

/-- An `optionalProperty` is looked up under its own name only. -/
private theorem lookup_optionalProperty (p q : PageProperty) (value : Option Text) :
    (optionalProperty p value).lookup q = if q = p then value else none := by
  cases value with
  | none => rw [ite_self]; rfl
  | some t =>
    by_cases h : q = p
    · subst h
      simp [optionalProperty]
    · have hne : (q == p) = false := by simpa using h
      simp [optionalProperty, List.lookup_cons, h, hne]

/-- What a page stores under a property. -/
def propertyValue? (i : Info) : PageProperty → Option Text
  | .filters => some i.filters.stored
  | .title => i.title
  | .printouts => i.printouts
  | .displayParameters => i.displayParameters
  | .exportFormat => i.exportFormat

/-- In `pageProperties` each field is found under its own property. -/
private theorem lookup_pageProperties (i : Info) (p : PageProperty) :
    i.pageProperties.lookup p = i.propertyValue? p := by
  -- The first property is always there, and each of the others just if its field is.
  rw [pageProperties, List.lookup_cons]
  cases p with
  | filters => rfl
  | title | printouts | displayParameters | exportFormat =>
    have hne : ∀ q : PageProperty, q ≠ .filters → (q == .filters) = false :=
      fun _ => beq_false_of_ne
    rw [hne _ (by decide)]
    simp [optionalProperties, List.lookup_append, lookup_optionalProperty, propertyValue?]

/-- Settings of which the filters are read back are known from their `pageProperties`. -/
theorem eq_of_pageProperties_eq {i j : Info}
    (hi : Catalog.ofStored? i.filters.stored = some i.filters)
    (hj : Catalog.ofStored? j.filters.stored = some j.filters)
    (h : i.pageProperties = j.pageProperties) : i = j := by
  have hvalue : ∀ p, i.propertyValue? p = j.propertyValue? p := by
    intro p
    rw [← lookup_pageProperties, h, lookup_pageProperties]
  -- The stored catalogs agree, and each is read back as its filters.
  have hstored : i.filters.stored = j.filters.stored := Option.some.inj (hvalue .filters)
  have hfilters : i.filters = j.filters := by
    rw [hstored, hj] at hi
    exact (Option.some.inj hi).symm
  cases i
  cases j
  rw [Info.mk.injEq]
  exact ⟨hfilters, hvalue .title, hvalue .displayParameters, hvalue .printouts,
    hvalue .exportFormat⟩

end Info

/-- A catalog with `DistinctKeys` is read back from `Catalog.stored` with the repeated items of its
    lists erased, so just those without repeated items are read back as they were.  This holds of
    all catalogs that are written by a specification or read from a stored text.  The filters of a
    page are among them, and its `pageProperties` determine its settings. -/
theorem Catalog.stored_roundtrip :
    (∀ c : Catalog, c.DistinctKeys →
        ofStored? c.stored = some c.eraseDups ∧
          (ofStored? c.stored = some c ↔ c.DistinctItems)) ∧
      (∀ t c, parse t = .ok c →
        c.DistinctKeys ∧ c.DistinctItems ∧ ofStored? c.stored = some c) ∧
      (∀ t c, ofStored? t = some c →
        c.DistinctKeys ∧ c.DistinctItems ∧ ofStored? c.stored = some c) ∧
      (∀ params i, Info.build params = .ok i →
        ∃ p t rest, i.pageProperties = (p, t) :: rest ∧ p.name = "SDFilters".toList ∧
          ofStored? t = some i.filters) ∧
      ∀ params params' i j, Info.build params = .ok i → Info.build params' = .ok j →
        i.pageProperties = j.pageProperties → i = j := by
  -- What a specification or a stored text gives has no repetitions to lose.
  refine ⟨fun c h => ⟨ofStored?_stored h, ofStored?_stored_iff h⟩, ?_, ?_, ?_, ?_⟩
  · intro t c h
    have hdistinct := (wellFormed_of_parse h).distinct
    exact ⟨hdistinct.1, hdistinct.2, ofStored?_stored_of_distinct hdistinct⟩
  · intro t c h
    have hdistinct := distinct_of_ofStored? h
    exact ⟨hdistinct.1, hdistinct.2, ofStored?_stored_of_distinct hdistinct⟩
  · intro params i h
    exact ⟨.filters, i.filters.stored, _, rfl, rfl, Info.ofStored?_stored_filters h⟩
  · intro params params' i j hi hj h
    exact Info.eq_of_pageProperties_eq (Info.ofStored?_stored_filters hi)
      (Info.ofStored?_stored_filters hj) h

/-- The list of a filter loses its second `a` when it is read back, and no more when that is stored
    and read back again, just as the filters of a page are read back as they were. -/
theorem Catalog.stored_roundtrip_repeated :
    ofStored? (stored ⟨[⟨['F'], [⟨.requires, .list [['a'], ['a']]⟩]⟩]⟩) =
        some ⟨[⟨['F'], [⟨.requires, .list [['a']]⟩]⟩]⟩ ∧
      ofStored? (stored ⟨[⟨['F'], [⟨.requires, .list [['a']]⟩]⟩]⟩) =
        some ⟨[⟨['F'], [⟨.requires, .list [['a']]⟩]⟩]⟩ ∧
      ∃ i, Info.build [⟨some "filters".toList, "F(requires=a)".toList⟩] = .ok i ∧
        ∃ p t rest, i.pageProperties = (p, t) :: rest ∧ p.name = "SDFilters".toList ∧
          ofStored? t = some ⟨[⟨['F'], [⟨.requires, .list [['a']]⟩]⟩]⟩ := by
  have hdistinct : DistinctKeys ⟨[⟨['F'], [⟨.requires, .list [['a'], ['a']]⟩]⟩]⟩ := by
    refine ⟨List.nodup_singleton _, fun f hf => ?_⟩
    rw [List.mem_singleton.mp hf]
    exact List.nodup_singleton _
  have hrepeated := (stored_roundtrip.1 _ hdistinct).1
  have hagain := (stored_roundtrip.2.2.1 _ _ hrepeated).2.2
  have hsetting : Setting.WellFormed ⟨.requires, .list [['a']]⟩ := by
    refine .list (List.nodup_singleton _) (fun t ht => ?_) (fun t ht => nomatch ht)
    rw [List.mem_singleton.mp ht]
    exact ⟨by decide, by decide, by decide, by decide⟩
  have hwf : WellFormed ⟨[⟨['F'], [⟨.requires, .list [['a']]⟩]⟩]⟩ := by
    refine ⟨List.nodup_singleton _, fun f hf => ?_⟩
    rw [List.mem_singleton.mp hf]
    refine ⟨⟨List.nodup_singleton _, fun s hs => ?_⟩, by decide, by decide, by decide, by decide⟩
    rw [List.mem_singleton.mp hs]
    exact hsetting
  have hbuild : Info.build [⟨some "filters".toList, "F(requires=a)".toList⟩] =
      .ok { filters := ⟨[⟨['F'], [⟨.requires, .list [['a']]⟩]⟩]⟩ } := by
    have hparse := parse_display hwf
    have hdisplay : display ⟨[⟨['F'], [⟨.requires, .list [['a']]⟩]⟩]⟩ =
        "F(requires=a)".toList := by decide
    rw [hdisplay] at hparse
    have hdraft : [(⟨some "filters".toList, "F(requires=a)".toList⟩ : Param)].foldl
        Info.Draft.add {} = { specification := "F(requires=a)".toList } := rfl
    rw [Info.build, hdraft, Info.Draft.info, hparse]
    rfl
  exact ⟨hrepeated, hagain, _, hbuild, stored_roundtrip.2.2.2.1 _ _ hbuild⟩

end Facets
