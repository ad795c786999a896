import Facets.Proofs.QueryAlphabet

/-!
# Queries as arguments of links

The argument `filters` of a link brings pairs of a query, in which each `&` may be written `&amp;`.
It adds just what its value is read as, wherever it stands among the arguments, and touches no other
part of the link (`Link.build_filters`).  Escaping each `&` is undone exactly, even in a value that
has `amp;` in it already (`Link.unescapeAmpersands_escapeAmpersands`).

So the query of a link can be given back as an argument, with its `&` escaped or as it stands:
nothing of it is trimmed, and nothing of it looks like `&amp;`.
-/

namespace Facets

namespace Link

/-! ## Ampersands -/

/-- A character as it stands in an argument where `&` is escaped. -/
def escapeAmpersand (c : Char) : Text := if c = '&' then "&amp;".toList else [c]

/-- A text with `&amp;` for each `&`. -/
def escapeAmpersands (t : Text) : Text := t.flatMap escapeAmpersand

/-- `unescapeAmpersands` passes over any character but `&`. -/
private theorem unescapeAmpersands_cons {c : Char} (hc : c ≠ '&') (t : Text) :
    unescapeAmpersands (c :: t) = c :: unescapeAmpersands t := by
  rw [unescapeAmpersands]
  rintro cs rfl
  exact absurd rfl hc

/-- `unescapeAmpersands` undoes `escapeAmpersands` exactly, whatever the text is. -/
theorem unescapeAmpersands_escapeAmpersands (t : Text) :
    unescapeAmpersands (escapeAmpersands t) = t := by
  induction t with
  | nil => rfl
  | cons c t ih =>
    rw [escapeAmpersands] at ih ⊢
    rw [List.flatMap_cons, escapeAmpersand]
    split
    · -- The five characters that stand for `&` are read as one.
      rename_i hc
      show '&' :: unescapeAmpersands (t.flatMap escapeAmpersand) = c :: t
      rw [ih, hc]
    · rename_i hc
      rw [List.singleton_append, unescapeAmpersands_cons hc, ih]

/-- `unescapeAmpersands` leaves a text without `;` alone. -/
private theorem unescapeAmpersands_of_not_mem {t : Text} (h : ';' ∉ t) :
    unescapeAmpersands t = t := by
  fun_induction unescapeAmpersands t with
  | case1 cs => simp at h
  | case2 c cs _ ih => rw [ih fun hm => h (List.mem_cons_of_mem c hm)]
  | case3 => rfl

/-- `escapeAmpersands` adds no blanks at the ends of a text and hides none. -/
private theorem trimBlank_escapeAmpersands (t : Text) :
    Text.trimBlank (escapeAmpersands t) = escapeAmpersands (Text.trimBlank t) := by
  refine Text.trim_flatMap (fun c hc => ?_) (fun c hc => ?_) (fun c hc => ?_) t
  · rw [escapeAmpersand, if_neg]
    rintro rfl
    exact absurd hc (by decide)
  -- `&amp;` begins with `&` and ends with `;`, and neither is a blank.
  · rw [escapeAmpersand]
    split
    · exact ⟨'&', "amp;".toList, rfl, by decide⟩
    · exact ⟨c, [], rfl, hc⟩
  · rw [escapeAmpersand]
    split
    · exact ⟨';', "&amp".toList, rfl, by decide⟩
    · exact ⟨c, [], rfl, hc⟩

/-! ## The argument `filters` -/

/-- What parameters add to the query of a draft does not depend on its other parts, nor these on the
    query. -/
private theorem foldl_add_query (ps : List Param) (d : Draft) (q : Query) :
    ps.foldl Draft.add { d with query := q } =
      { ps.foldl Draft.add d with
        query := (ps.filterMap fragment?).foldl (fun q f => q.merge (.ofFragment f)) q } := by
  -- The first parameter changes both the draft and the query that stands for its own.
  induction ps generalizing d q with
  | nil => rfl
  | cons p ps ih =>
    have hadd : Draft.add { d with query := q } p =
        { d.add p with
          query := ((fragment? p).map fun f => q.merge (.ofFragment f)).getD q } := by
      rw [Draft.add_eq, Draft.add_eq]
    rw [List.foldl_cons, List.foldl_cons, hadd, ih, List.filterMap_cons]
    cases fragment? p with
    | none => rfl
    | some f => rfl

/-- `Draft.add` merges the value of `filters` into the query. -/
private theorem Draft.add_filters (d : Draft) (value : Text) :
    d.add ⟨some "filters".toList, value⟩ =
      { d with query := d.query.merge (.ofFragment (unescapeAmpersands value)) } := rfl

/-- The argument `filters` merges what its value is read as into the query of the arguments before
    it, and in `Link.build` all else is as if it were not there. -/
theorem build_filters (before after : List Param) (value : Text) :
    build (before ++ ⟨some "filters".toList, value⟩ :: after) =
      { build (before ++ after) with
        query := ((build before).query.merge (.ofFragment (unescapeAmpersands value))).merge
          (build after).query } := by
  have hfold : (before ++ ⟨some "filters".toList, value⟩ :: after).foldl Draft.add {} =
      { (before ++ after).foldl Draft.add {} with
        query := ((build before).query.merge (.ofFragment (unescapeAmpersands value))).merge
          (build after).query } := by
    -- Behind the argument, the others start from a query of their own, which is merged in.
    rw [List.foldl_append, List.foldl_cons, Draft.add_filters, foldl_add_query,
      Query.foldl_merge_eq_merge, ← query_build, List.foldl_append]
    rfl
  rw [build, hfold]
  rfl

/-- The query of `filters` alone is what its value is read as. -/
private theorem query_build_filters (value : Text) :
    (build [⟨some "filters".toList, value⟩]).query = .ofFragment (unescapeAmpersands value) := by
  have hbuild := congrArg Link.query (build_filters [] [] value)
  rw [List.nil_append] at hbuild
  rw [hbuild]
  exact Query.empty_merge (Query.distinctKeys_ofFragment _)

/-- `Param.parse` takes for the value of `filters` what stands after its first `=`, trimmed. -/
theorem parse_filters (value : Text) :
    Param.parse ("filters=".toList ++ value) =
      ⟨some "filters".toList, Text.trimBlank value⟩ := by
  have hequals : '=' ∉ "filters".toList := by decide
  have hcut : Text.cut? '=' ("filters=".toList ++ value) = some ("filters".toList, value) :=
    Text.cut?_append hequals value
  have hname : Text.trimBlank "filters".toList = "filters".toList := by decide
  rw [Param.parse, hcut]
  simp only [hname]

/-! ## The query of a link -/

/-- Nothing is trimmed from a `queryString`. -/
private theorem trimBlank_queryString (l : Link) :
    Text.trimBlank l.queryString = l.queryString := by
  refine Text.trim_of_forall fun c hc => ?_
  rw [← Bool.not_eq_true]
  intro hblank
  exact (Query.escaped_encode l.query).not_mem (Url.isQueryChar_of_isBlank hblank) hc

/-- Nothing in a `queryString` looks like `&amp;`, whose `;` would be escaped. -/
private theorem unescapeAmpersands_queryString (l : Link) :
    unescapeAmpersands l.queryString = l.queryString := by
  have hsemicolon : ';' ∉ l.queryString := (Query.escaped_encode l.query).not_mem (by decide)
  exact unescapeAmpersands_of_not_mem hsemicolon

/-- The `queryString` of a link can be given back as the argument `filters`, as it stands or with
    each `&` escaped.  In general a parameter `filters` with each `&` escaped merges the fragment
    that was escaped and does nothing else, and an argument does so with the trimmed fragment. -/
theorem query_given_back :
    (∀ params : List Param,
      (build [.parse ("filters=".toList ++ (build params).queryString)]).query =
          (build params).query ∧
        (build [.parse
          ("filters=".toList ++ escapeAmpersands (build params).queryString)]).query =
            (build params).query) ∧
      (∀ (before after : List Param) (f : Text),
        build (before ++ ⟨some "filters".toList, escapeAmpersands f⟩ :: after) =
          { build (before ++ after) with
            query := ((build before).query.merge (.ofFragment f)).merge (build after).query }) ∧
      ∀ f : Text, (build [.parse ("filters=".toList ++ escapeAmpersands f)]).query =
        .ofFragment (Text.trimBlank f) := by
  have hescaped : ∀ f : Text, (build [.parse ("filters=".toList ++ escapeAmpersands f)]).query =
      .ofFragment (Text.trimBlank f) := by
    intro f
    rw [parse_filters, query_build_filters, trimBlank_escapeAmpersands,
      unescapeAmpersands_escapeAmpersands]
  refine ⟨fun params => ?_, fun before after f => ?_, hescaped⟩
  · have hquery := Query.ofFragment_encode_ofFragment
      (Text.join ['&'] (params.filterMap fragment?))
    -- A query that was read from some fragment is read back.
    rw [← query_build] at hquery
    constructor
    · rw [parse_filters, query_build_filters, trimBlank_queryString,
        unescapeAmpersands_queryString]
      exact hquery
    · rw [hescaped, trimBlank_queryString]
      exact hquery
  · rw [build_filters, unescapeAmpersands_escapeAmpersands]

end Link

end Facets
