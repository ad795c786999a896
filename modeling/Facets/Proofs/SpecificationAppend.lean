import Facets.Proofs.CatalogWellFormed
import Facets.Proofs.Segmentation

/-!
# Specifications written one after the other

If nothing but padding is left over in a specification, another one can be written after it: both
together are read as the first, with the filters of the second inserted (`Catalog.parse_append`).

Two facts carry this.  What is left over makes no difference in front of the second specification
(`Catalog.addSpecification_padding`).  And reading into a catalog is inserting what is read by
itself, since putting elements under their keys is associative (`Catalog.addSpecification_eq_map`).
-/

namespace Facets.Catalog

/-! ## Reading into a catalog -/

/-- `insertAll` of what one more filter was inserted into inserts that filter last. -/
private theorem insertAll_insert (c : Catalog) {d : Catalog} (h : d.names.Nodup) (f : Filter) :
    c.insertAll (d.insert f).filters = (c.insertAll d.filters).insert f :=
  congrArg Catalog.mk (Keyed.putAll_put f c.filters h)

/-- One group: `addGroup` may read it into a catalog, or into what is inserted there later. -/
private theorem addGroup_insertAll (c : Catalog) {d : Catalog} (h : d.names.Nodup) (g : Group) :
    (c.insertAll d.filters).addGroup g =
      (fun d' : Catalog => c.insertAll d'.filters) <$> d.addGroup g := by
  rw [addGroup, addGroup, addSegment, addSegment]
  -- What a group is read as does not depend on the catalog.
  cases Filter.parse (Text.trimName g.name) g.settings with
  | error e => rfl
  | ok f =>
    show Except.ok _ = Except.ok (c.insertAll (Catalog.filters (if _ then _ else _)))
    congr 1
    split
    · rfl
    · -- A filter with a name is inserted at once, or last of all.
      exact (c.insertAll_insert h f).symm

/-- All groups: what `addGroup` reads stays well formed, so its names stay distinct. -/
private theorem foldlM_addGroup_insertAll (c : Catalog) {d : Catalog} (h : d.WellFormed)
    (gs : List Group) :
    gs.foldlM addGroup (c.insertAll d.filters) =
      (fun d' : Catalog => c.insertAll d'.filters) <$> gs.foldlM addGroup d := by
  induction gs generalizing d with
  | nil => rfl
  | cons g gs ih =>
    rw [List.foldlM_cons, List.foldlM_cons, c.addGroup_insertAll h.nodup_names]
    cases hg : d.addGroup g with
    | error e => rfl
    | ok d' => exact ih (wellFormed_addSegment g.isParen_name g.close_not_mem_settings hg h)

/-- `addSpecification` inserts the filters that a specification writes by itself. -/
theorem addSpecification_eq_map (c : Catalog) (t : Text) :
    c.addSpecification t = (fun d : Catalog => c.insertAll d.filters) <$> parse t := by
  obtain ⟨d⟩ := Segmentation.nonempty t
  have hempty : empty.WellFormed := ⟨List.nodup_nil, List.forall_mem_nil _⟩
  rw [← addSpecification_empty, addSpecification_eq c d, addSpecification_eq empty d]
  exact c.foldlM_addGroup_insertAll hempty d.groups

/-! ## Two specifications -/

/-- `parse` reads one specification and goes on with what is left over of it and the other. -/
private theorem parse_append_eq_bind {s : Text} (d : Segmentation s) (t : Text) :
    parse (s ++ t) = parse s >>= fun c => c.addSpecification (d.rest ++ t) := by
  rw [← addSpecification_empty, ← addSpecification_empty, addSpecification_eq empty d]
  obtain ⟨groups, junk, rest, hjunk, -, rfl⟩ := d
  rw [List.append_assoc, addSpecification_groups, List.append_assoc]
  simp only [addSpecification_junk _ hjunk]

/-- If only padding is left over of a specification, `parse` reads it and the one that is written
    after it one after the other: each may fail, and the filters of the second are inserted into the
    catalog of the first. -/
theorem parse_append {s : Text} (d : Segmentation s)
    (h : ∀ x ∈ d.rest, Text.isNamePadding x = true) (t : Text) :
    parse (s ++ t) = (do
      let c ← parse s
      let c' ← parse t
      return c.insertAll c'.filters) := by
  -- What is left over stands in front of the second specification, as padding.
  rw [parse_append_eq_bind d]
  congr 1
  funext c
  rw [addSpecification_padding c h, addSpecification_eq_map, map_eq_pure_bind]

/-- Each of the two specifications leaves a comma and a blank over, and the second one begins with
    a `)`.  A filter of the second takes the place that its name has in the first. -/
theorem parse_append_replaces :
    parse ("A(group=G), B(), ".toList ++ ") A(category=C), ".toList) =
      .ok ⟨[⟨"A".toList, [⟨.category, .scalar "C".toList⟩]⟩, ⟨"B".toList, []⟩]⟩ := by
  let d : Segmentation "A(group=G), B(), ".toList :=
    { groups :=
        [⟨[], "A".toList, "group=G".toList, by decide, by simp [Scanner.isParen], by decide⟩,
          ⟨[], ", B".toList, [], by decide, by simp [Scanner.isParen], by decide⟩]
      junk := []
      rest := ", ".toList
      isJunk_junk := .nil
      close_not_mem_rest := by decide
      text_eq := by decide }
  let d' : Segmentation ") A(category=C), ".toList :=
    { groups :=
        [⟨")".toList, " A".toList, "category=C".toList, by decide, by simp [Scanner.isParen],
          by decide⟩]
      junk := []
      rest := ", ".toList
      isJunk_junk := .nil
      close_not_mem_rest := by decide
      text_eq := by decide }
  have hfirst : parse "A(group=G), B(), ".toList =
      .ok ⟨[⟨"A".toList, [⟨.group, .scalar "G".toList⟩]⟩, ⟨"B".toList, []⟩]⟩ := by
    rw [← addSpecification_empty, addSpecification_eq empty d]
    rfl
  have hsecond : parse ") A(category=C), ".toList =
      .ok ⟨[⟨"A".toList, [⟨.category, .scalar "C".toList⟩]⟩]⟩ := by
    rw [← addSpecification_empty, addSpecification_eq empty d']
    rfl
  rw [parse_append d (List.all_eq_true.mp (by decide)), hfirst, hsecond]
  rfl

end Facets.Catalog
