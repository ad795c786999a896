import Facets.Proofs.CatalogWellFormed
import Facets.Proofs.LastElement

/-!
# What segments leave in a catalog

A filter replaces the one of its name and keeps its place, so a name stands where it occurred
first and holds what it was given last.  `Catalog.Follows` says this of a catalog and the segments
that have been read into it; each further segment keeps it (`Catalog.Follows.addSegment`), and so
it holds of every specification that is read (`Catalog.follows_of_parse`).

Names are compared without the padding around them, and segments without a name leave nothing.
-/

namespace Facets

/-- The name of a segment as a filter bears it, without `Text.trimName` padding. -/
def Segment.filterName (g : Segment) : Text := Text.trimName g.name

namespace Catalog

/-- What a catalog holds once some segments have been read into it, said without `addSegment`. -/
structure Follows (c : Catalog) (segments : List Segment) : Prop where
  /-- The names are those that are not empty, each where it occurs first. -/
  names : c.names = ((segments.map Segment.filterName).filter (· ≠ [])).eraseDups
  /-- Under a name stands the filter that the last segment of that name writes. -/
  get : ∀ {name : Text} {g : Segment} {after : List Segment}, name ≠ [] →
    IsLast (·.filterName = name) segments g after →
      ∃ f, Filter.parse name g.settings = .ok f ∧ c.get? name = some f

/-- The empty catalog `Follows` no segments. -/
private theorem follows_empty : empty.Follows [] where
  names := rfl
  get _ hlast := nomatch hlast.mem

/-- A segment without a name leaves what the catalog `Follows` as it is. -/
private theorem Follows.skip {c : Catalog} {segments : List Segment} (hc : c.Follows segments)
    {g : Segment} (hg : g.filterName = []) : c.Follows (segments ++ [g]) where
  names := by simp [hc.names, hg]
  get hname hlast := by
    -- The last segment of a name is among those before, since this one has no name.
    obtain ⟨rest, -, hrest⟩ := hlast.of_concat fun heq => hname (heq.symm.trans hg)
    exact hc.get hname hrest

/-- A filter that `Catalog.insert` adds is the last one of its name, and changes nothing else. -/
private theorem Follows.insert {c : Catalog} {segments : List Segment} (hc : c.Follows segments)
    {g : Segment} {f : Filter} (hg : g.filterName ≠ [])
    (hf : Filter.parse g.filterName g.settings = .ok f) :
    (c.insert f).Follows (segments ++ [g]) where
  names := by
    rw [names_insert, Filter.name_of_parse hf, hc.names, ← eraseDups_concat, List.map_append,
      List.filter_append]
    simp [hg]
  get {name g' after} hname hlast := by
    rw [get?_insert, Filter.name_of_parse hf]
    -- Either the new segment is the last one of its name, or the name is another one.
    rcases isLast_concat.mp hlast with ⟨rfl, rfl, -⟩ | ⟨hne, rest, -, hrest⟩
    · exact ⟨f, hf, if_pos rfl⟩
    · rw [if_neg hne]
      exact hc.get hname hrest

/-- `addSegment` keeps `Follows`, with one more segment. -/
theorem Follows.addSegment {c c' : Catalog} {segments : List Segment} {g : Segment}
    (hc : c.Follows segments) (h : c.addSegment g = .ok c') : c'.Follows (segments ++ [g]) := by
  rw [Catalog.addSegment] at h
  obtain ⟨f, hf, h⟩ := exists_ok_of_bind_eq_ok h
  cases h
  split
  · rename_i hnil
    exact hc.skip hnil
  · rename_i hne
    exact hc.insert hne hf

/-- `parse` gives a catalog that `Follows` all the segments of the specification. -/
theorem follows_of_parse {t : Text} {c : Catalog} (h : parse t = .ok c) :
    c.Follows (Segment.ofText t) :=
  foldlM_read (P := fun segments c => Follows c segments)
    (fun _ _ _ _ _ hadd hc => hc.addSegment hadd) h follows_empty

/-- The names of a catalog that `parse` gives are the names of the segments without padding, the
    empty ones left out and each of the others where it occurs first.  The filter of a name is the
    one that `Filter.parse` reads from the settings of the last segment of that name alone. -/
theorem names_and_filters_of_parse {t : Text} {c : Catalog} (h : parse t = .ok c) :
    c.names = (((Segment.ofText t).map fun g => Text.trimName g.name).filter (· ≠ [])).eraseDups ∧
      ∀ name ∈ c.names, ∃ g after f,
        IsLast (fun g => Text.trimName g.name = name) (Segment.ofText t) g after ∧
          Filter.parse name g.settings = .ok f ∧ c.get? name = some f := by
  have hc := follows_of_parse h
  refine ⟨hc.names, fun name hname => ?_⟩
  rw [hc.names, List.mem_eraseDups, List.mem_filter, List.mem_map, decide_eq_true_eq] at hname
  obtain ⟨hsome, hne⟩ := hname
  -- A name of the catalog is that of some segment, hence of a last one.
  obtain ⟨g, after, hlast⟩ := exists_isLast hsome
  obtain ⟨f, hf, hget⟩ := hc.get hne hlast
  exact ⟨g, after, f, hlast, hf, hget⟩

/-- The last of three groups replaces the settings of the first and leaves `A` in its place, though
    padding stands around its name; the third group of all has no name. -/
theorem names_and_filters_of_parse_replaced :
    ∃ c, parse "A(group=G, requires=B), B(), (group=X),A ,(property=P)".toList = .ok c ∧
      c.names = ["A".toList, "B".toList] ∧
        ∃ g after f,
          IsLast (fun g => Text.trimName g.name = "A".toList)
            (Segment.ofText "A(group=G, requires=B), B(), (group=X),A ,(property=P)".toList)
            g after ∧
          Filter.parse "A".toList g.settings = .ok f ∧ c.get? "A".toList = some f := by
  have hparse : parse "A(group=G, requires=B), B(), (group=X),A ,(property=P)".toList =
      .ok ⟨[⟨"A".toList, [⟨.property, .scalar "P".toList⟩]⟩, ⟨"B".toList, []⟩]⟩ := by
    decide +kernel
  obtain ⟨hnames, hfilters⟩ := names_and_filters_of_parse hparse
  exact ⟨_, hparse, hnames.trans (by decide +kernel), hfilters "A".toList (by decide)⟩

end Catalog

end Facets
