import Facets.Proofs.FormEncoding
import Facets.Proofs.LastValue
import Facets.Proofs.QueryAlgebra
import Facets.Proofs.TextReplacement

/-!
# What the arguments of a link amount to

`Link.build` reads the arguments of a link one by one into a draft.  Here each part of the link is
said in one formula: the category, the text and the tooltip come from the last argument of their
names, and the query is read at once from the fragments of all arguments, joined by `&`
(`Link.query_build`).

The formulas write out the names and keys, and say what becomes of `&amp;` by `Text.replace`; that
the reader of arguments agrees with them is proved for one argument (`Link.Draft.add_eq`) and
follows for all.
-/

namespace Facets

/-! ## Names of parameters -/

/-- The names that `LinkParam.ofName?` gives a meaning. -/
def LinkParam.spellings : LinkParam → List Text
  | .category => ["category".toList, "cat".toList]
  | .subcategory => ["subcategory".toList, "subcat".toList]
  | .linkText => ["link text".toList]
  | .tooltip => ["tooltip".toList]
  | .filters => ["filters".toList]

/-- `LinkParam.ofName?` gives a name a meaning when it is one of its `spellings`. -/
theorem LinkParam.ofName?_eq_some_iff {name : Text} {m : LinkParam} :
    ofName? name = some m ↔ name ∈ m.spellings := by
  have hnodup : (names.map Prod.fst).Nodup := by decide
  rw [ofName?, lookup_eq_some_iff_mem hnodup]
  cases m <;> simp [names, spellings]

/-- The names of all parameters that `Link.build` reads. -/
def LinkParam.readNames : List Text :=
  ["category".toList, "cat".toList, "subcategory".toList, "subcat".toList, "link text".toList,
    "tooltip".toList, "filters".toList]

/-- All `spellings` are among the `readNames`. -/
private theorem LinkParam.spellings_subset (m : LinkParam) : m.spellings ⊆ readNames := by
  cases m <;> decide

namespace Link

/-- The fragment that a parameter adds to the query: `_single` for the value `single` without a
    name, `_subcat` with the value for a subcategory, and the value of `filters` with `&` for each
    `&amp;`. -/
def fragment? (p : Param) : Option Text :=
  match p.name with
  | none => if p.value = "single".toList then some "_single".toList else none
  | some name =>
    if ["subcategory".toList, "subcat".toList].contains name then
      some ("_subcat=".toList ++ p.value)
    else if name = "filters".toList then
      some (Text.replace "&amp;".toList "&".toList p.value)
    else none

/-- Whether a parameter has a meaning to a link. -/
def isRead (p : Param) : Bool :=
  match p.name with
  | none => p.value = "single".toList
  | some name => LinkParam.readNames.contains name

/-- `fragment?` by the meaning of a name, as the reader of arguments has it. -/
private theorem fragment?_some (name value : Text) :
    fragment? ⟨some name, value⟩ =
      match LinkParam.ofName? name with
      | some .subcategory => some (subcategoryKey ++ '=' :: value)
      | some .filters => some (unescapeAmpersands value)
      | _ => none := by
  -- The names that `fragment?` writes out are the spellings of two meanings.
  have hsubcategory : name ∈ ["subcategory".toList, "subcat".toList] ↔
      LinkParam.ofName? name = some .subcategory := by
    rw [LinkParam.ofName?_eq_some_iff, LinkParam.spellings]
  have hfilters : name = "filters".toList ↔ LinkParam.ofName? name = some .filters := by
    rw [LinkParam.ofName?_eq_some_iff, LinkParam.spellings, List.mem_singleton]
  simp only [fragment?, List.contains_iff_mem, hsubcategory, hfilters,
    unescapeAmpersands_eq_replace]
  cases LinkParam.ofName? name with
  | none => rfl
  | some m => cases m <;> rfl

/-! ## One parameter -/

/-- Setting `singleKey`, which asks for a single category, is merging its fragment. -/
private theorem insert_singleKey (q : Query) :
    q.insert singleKey [] = q.merge (.ofFragment singleKey) := by
  -- No character of the key is escaped, so it is read as it stands.
  have hdecode : Percent.decode singleKey = singleKey := by
    have hencode : Percent.encode singleKey = singleKey := by decide
    have h := Percent.decode_encode singleKey
    rwa [hencode] at h
  have hpairs : Query.normalizePairs (Query.readPairs singleKey) =
      [(singleKey, [])] := by
    have hpieces : (Text.pieces '&' singleKey).filter (· ≠ []) = [singleKey] := by
      decide
    have hcut : Text.cut? '=' singleKey = none := by decide
    rw [Query.readPairs, hpieces, List.map_singleton, Query.readPair, hcut, hdecode]
    decide
  -- The fragment is one pair, and merging it inserts that pair.
  rw [Query.merge_ofFragment, hpairs]
  rfl

/-- What `Draft.add` does to a draft: each part is set by the parameters of its names, and the query
    is merged with the `fragment?` of the parameter. -/
theorem Draft.add_eq (d : Draft) (p : Param) :
    d.add p =
      { category := if p.isNamed LinkParam.category.spellings then p.value else d.category
        query := ((fragment? p).map fun f => d.query.merge (.ofFragment f)).getD d.query
        text := if p.isNamed LinkParam.linkText.spellings then some p.value else d.text
        tooltip :=
          if p.isNamed LinkParam.tooltip.spellings then some (Html.decode p.value)
          else d.tooltip } := by
  obtain ⟨name, value⟩ := p
  cases name with
  | none =>
    have hname : ∀ names, Param.isNamed names ⟨none, value⟩ = false := fun _ => rfl
    simp only [hname, Bool.false_eq_true, if_false]
    rw [add]
    by_cases hvalue : value = singleFlag
    · have hfragment : fragment? ⟨none, value⟩ = some singleKey := if_pos hvalue
      rw [if_pos hvalue, hfragment, insert_singleKey]
      rfl
    · have hfragment : fragment? ⟨none, value⟩ = none := if_neg hvalue
      rw [if_neg hvalue, hfragment]
      rfl
  | some name =>
    -- The names of different meanings exclude each other.
    have hname : ∀ m : LinkParam, Param.isNamed m.spellings ⟨some name, value⟩ =
        decide (LinkParam.ofName? name = some m) := by
      intro m
      simp [Param.isNamed, LinkParam.ofName?_eq_some_iff]
    rw [add]
    simp only [hname, fragment?_some]
    cases LinkParam.ofName? name with
    | none => simp
    | some m => cases m <;> simp

/-- `Draft.add` leaves a draft as it is if the parameter has no meaning. -/
private theorem Draft.add_of_not_isRead (d : Draft) {p : Param} (h : isRead p = false) :
    d.add p = d := by
  obtain ⟨name, value⟩ := p
  cases name with
  | none =>
    have hvalue : value ≠ singleFlag := of_decide_eq_false h
    rw [add, if_neg hvalue]
  | some name =>
    have hname : LinkParam.ofName? name = none := by
      rw [Option.eq_none_iff_forall_ne_some]
      intro m hm
      have hmem := m.spellings_subset (LinkParam.ofName?_eq_some_iff.mp hm)
      have hread : isRead ⟨some name, value⟩ = true := List.contains_iff_mem.mpr hmem
      rw [hread] at h
      cases h
    rw [add]
    simp only [hname]

/-! ## All parameters -/

/-- The query of a draft is merged with `fragment?` of the parameters, one after the other. -/
private theorem foldl_query (ps : List Param) (d : Draft) :
    (ps.foldl Draft.add d).query =
      (ps.filterMap fragment?).foldl (fun q f => q.merge (.ofFragment f)) d.query := by
  induction ps generalizing d with
  | nil => rfl
  | cons p ps ih =>
    rw [List.foldl_cons, ih, Draft.add_eq, List.filterMap_cons]
    cases fragment? p with
    | none => rfl
    | some f => rfl

/-- The query of `Link.build` is read from the fragments of the parameters, joined by `&`. -/
theorem query_build (params : List Param) :
    (build params).query = .ofFragment (Text.join ['&'] (params.filterMap fragment?)) := by
  rw [Query.ofFragment_join]
  exact foldl_query params {}

/-- Parameters without a meaning can be left out of `Link.build`. -/
private theorem build_filter_isRead (params : List Param) :
    build (params.filter isRead) = build params := by
  have hadd : (fun d p => if isRead p then Draft.add d p else d) = Draft.add := by
    funext d p
    split
    · rfl
    · rename_i hp
      exact (d.add_of_not_isRead (by simpa using hp)).symm
  -- Leaving parameters out of a fold is passing over them in its step.
  rw [build, List.foldl_filter, hadd, build]

/-- What `Link.build` makes of its parameters: the category is the last one given, the text the last
    one given unless that is empty, the tooltip the last one given with its references decoded,
    unless that is empty, and the query is read from the fragments of the parameters, joined by `&`.
    All parameters for which `isRead` fails have no effect. -/
theorem build_closed_form (params : List Param) :
    (build params).category =
        (Param.lastValue? ["category".toList, "cat".toList] params).getD [] ∧
      (build params).text =
        ((Param.lastValue? ["link text".toList] params).filter (· ≠ [])).getD
          (build params).category ∧
      (build params).tooltip =
        ((Param.lastValue? ["tooltip".toList] params).map Html.decode).filter (· ≠ []) ∧
      (build params).query = .ofFragment (Text.join "&".toList (params.filterMap fragment?)) ∧
      build (params.filter isRead) = build params := by
  -- Three parts of the draft are each set by the last parameter of their names.
  have hcategory := Param.foldl_lastValue Draft.add Draft.category id
    (fun d p => by rw [Draft.add_eq]; rfl) params {}
  have htext := Param.foldl_lastValue Draft.add Draft.text some
    (fun d p => by rw [Draft.add_eq]) params {}
  have htooltip := Param.foldl_lastValue Draft.add Draft.tooltip (fun t => some (Html.decode t))
    (fun d p => by rw [Draft.add_eq]) params {}
  refine ⟨?_, ?_, ?_, query_build params, build_filter_isRead params⟩
  · rw [build, Draft.link, hcategory, Option.map_id]
    rfl
  · rw [build, Draft.link, htext]
    show _ = ((Param.lastValue? LinkParam.linkText.spellings params).filter (· ≠ [])).getD _
    cases Param.lastValue? LinkParam.linkText.spellings params with
    | none => rfl
    | some t => rfl
  · rw [build, Draft.link, htooltip]
    show _ = ((Param.lastValue? LinkParam.tooltip.spellings params).map Html.decode).filter (· ≠ [])
    cases Param.lastValue? LinkParam.tooltip.spellings params with
    | none => rfl
    | some t => rfl

/-- Pairs of the query may be written with `&amp;` between them, and what is left of `&amp;amp;`
    stays as it is. -/
theorem build_closed_form_entities :
    let params : List Param := [⟨some "cat".toList, "Fruit".toList⟩, ⟨none, "single".toList⟩,
      ⟨some "filters".toList, "Color=red&amp;Size=3&amp;amp;b".toList⟩,
      ⟨some "subcat".toList, "Citrus".toList⟩]
    (build params).category = "Fruit".toList ∧ (build params).text = "Fruit".toList ∧
      (build params).query =
        .ofFragment "_single&Color=red&Size=3&amp;b&_subcat=Citrus".toList := by
  intro params
  obtain ⟨hcategory, htext, -, hquery, -⟩ := build_closed_form params
  -- The text between occurrences of the entity is known from what is joined.
  have hpieces : Text.piecesBetween "&amp;".toList "Color=red&amp;Size=3&amp;amp;b".toList =
      ["Color=red".toList, "Size=3".toList, "amp;b".toList] := by
    have hampersand : '&' ∉ "amp;".toList := by decide
    have hmem : ∀ p ∈ ["Color=red".toList, "Size=3".toList, "amp;b".toList], '&' ∉ p := by decide
    refine (Text.piecesBetween_eq_iff hampersand).mpr ⟨by decide, by decide, ?_⟩
    exact fun p hp hfound => hmem p hp (hfound.subset List.mem_cons_self)
  have hreplace : Text.replace "&amp;".toList "&".toList "Color=red&amp;Size=3&amp;amp;b".toList =
      "Color=red&Size=3&amp;b".toList := by
    rw [Text.replace, hpieces]
    rfl
  have hfilters : fragment? ⟨some "filters".toList, "Color=red&amp;Size=3&amp;amp;b".toList⟩ =
      some "Color=red&Size=3&amp;b".toList := by
    rw [← hreplace]
    rfl
  have hfragments : params.filterMap fragment? =
      ["_single".toList, "Color=red&Size=3&amp;b".toList, "_subcat=Citrus".toList] := by
    simp only [params, List.filterMap_cons, hfilters]
    rfl
  rw [hfragments] at hquery
  exact ⟨hcategory, htext.trans hcategory, hquery⟩

end Link

end Facets
