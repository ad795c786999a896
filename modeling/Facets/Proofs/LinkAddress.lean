import Facets.Proofs.QueryRoundtrip

/-!
# The query in the address of a link

The address of a link is made of a base URL, a category as it stands, and the encoded query of
the link.  Base and category may bring a query of their own, and `Link.ofFragment_queryPart_href`
says what is read from the address as a whole: that query, merged with the query of the link.

The separator is the point.  The query goes after a `?` where the URL has none, so that it is
all that is read, and after a `&` where it has one, so that it is read after the pairs that are
there (`Url.ofFragment_queryPart_appendQuery`).  Whether the URL has a `?` depends on the category,
too, and not on the base alone (`Link.href_separator`).
-/

namespace Facets

namespace Url

/-- The query part of a URL: what stands after its first `?`. -/
def queryPart (url : Text) : Text :=
  match url.cut? '?' with
  | some (_, query) => query
  | none => []

/-- `queryPart` is empty without a `?`. -/
theorem queryPart_of_not_mem {url : Text} (h : '?' ∉ url) : queryPart url = [] := by
  rw [queryPart, Text.cut?_eq_none_iff.mpr h]

/-- `queryPart` is all that follows the first `?`. -/
private theorem queryPart_append {path : Text} (h : '?' ∉ path) (query : Text) :
    queryPart (path ++ '?' :: query) = query := by
  rw [queryPart, Text.cut?_append h]

/-- After `appendQuery` the appended query is all of the `queryPart`, or it follows the query that
    is there. -/
theorem queryPart_appendQuery {query : Text} (hquery : query ≠ []) (url : Text) :
    queryPart (appendQuery url query) =
      if '?' ∈ url then queryPart url ++ '&' :: query else query := by
  rw [appendQuery, if_neg hquery]
  split
  · rename_i hurl
    cases hcut : url.cut? '?' with
    | none => exact absurd hurl (Text.cut?_eq_none_iff.mp hcut)
    | some p =>
      -- The query part begins at the first `?`, wherever another one stands after it.
      obtain ⟨path, old⟩ := p
      obtain ⟨rfl, hpath⟩ := Text.append_of_cut? hcut
      rw [List.append_assoc, List.cons_append, queryPart_append hpath, queryPart_append hpath]
  · rename_i hurl
    rw [queryPart_append hurl]

/-- `appendQuery` merges a query into the one that the URL has. -/
theorem ofFragment_queryPart_appendQuery (url query : Text) :
    Query.ofFragment (queryPart (appendQuery url query)) =
      (Query.ofFragment (queryPart url)).merge (.ofFragment query) := by
  by_cases hquery : query = []
  · -- No separator is written.
    rw [appendQuery, if_pos hquery, hquery, Query.ofFragment_nil, Query.merge_empty]
  · rw [queryPart_appendQuery hquery]
    split
    · -- After `&`: the fragment is read as one that follows the other.
      rw [Query.ofFragment_append]
    · rename_i hurl
      -- After `?`: the URL had no query, and the empty one is merged with anything.
      rw [queryPart_of_not_mem hurl, Query.ofFragment_nil,
        Query.empty_merge (Query.distinctKeys_ofFragment query)]

end Url

namespace Link

/-- What is read from the `href` of a link is the query that base and category bring with them,
    overwritten and extended by the query of the link. -/
theorem ofFragment_queryPart_href (params : List Param) (base : Text) :
    Query.ofFragment (Url.queryPart ((build params).href base)) =
      (Query.ofFragment
        (Url.queryPart (Url.pathSegment (base ++ '/' :: (build params).category)))).merge
        (build params).query := by
  -- The query of a link was read from fragments, so it is read back from what it is written as.
  have hquery : Query.ofFragment (build params).queryString = (build params).query := by
    rw [queryString, query_build, Query.ofFragment_encode_ofFragment]
  rw [href, Url.ofFragment_queryPart_appendQuery, hquery]

end Link

/-! ## The separator -/

namespace Url

/-- `pathSegment` goes part by part. -/
private theorem pathSegment_append_cons (base category : Text) :
    pathSegment (base ++ '/' :: category) = pathSegment base ++ '/' :: pathSegment category := by
  simp [pathSegment]

/-- `pathSegment` makes underscores of spaces, which brings in no `?` and takes none away. -/
private theorem questionMark_mem_pathSegment {t : Text} : '?' ∈ pathSegment t ↔ '?' ∈ t := by
  rw [pathSegment, List.mem_map]
  constructor
  · rintro ⟨c, hc, heq⟩
    split at heq
    · cases heq
    · exact heq ▸ hc
  · exact fun h => ⟨'?', h, rfl⟩

end Url

namespace Link

/-- The query of a link goes after a `&` if base or category have a `?`, since `href` does not
    escape a category and its `?` begins a query just as one in the base does. -/
private theorem href_eq {l : Link} (h : l.queryString ≠ []) (base : Text) :
    l.href base = Url.pathSegment base ++ '/' :: (Url.pathSegment l.category ++
      (if '?' ∈ base ∨ '?' ∈ l.category then '&' else '?') :: l.queryString) := by
  have hmem : '?' ∈ Url.pathSegment base ++ '/' :: Url.pathSegment l.category ↔
      '?' ∈ base ∨ '?' ∈ l.category := by
    simp [Url.questionMark_mem_pathSegment]
  rw [href, Url.appendQuery, if_neg h, Url.pathSegment_append_cons]
  simp only [hmem, List.append_assoc, List.cons_append]

/-- In `Link.href` the query goes after a `&` if base or category have a `?`.  So the base alone
    settles the separator just if it has a `?` itself or the category has none. -/
theorem href_separator {l : Link} (h : l.queryString ≠ []) (base : Text) :
    l.href base = Url.pathSegment base ++ '/' :: (Url.pathSegment l.category ++
        (if '?' ∈ base ∨ '?' ∈ l.category then '&' else '?') :: l.queryString) ∧
      (l.href base = Url.pathSegment base ++ '/' :: (Url.pathSegment l.category ++
          (if '?' ∈ base then '&' else '?') :: l.queryString) ↔
        '?' ∈ base ∨ '?' ∉ l.category) := by
  refine ⟨href_eq h base, ?_⟩
  rw [href_eq h base]
  simp only [List.append_cancel_left_eq, List.cons.injEq, true_and, and_true]
  by_cases hbase : '?' ∈ base
  · simp [hbase]
  · by_cases hcategory : '?' ∈ l.category <;> simp [hbase, hcategory]

/-- A link to `Who?` under the base `/wiki`, which has no `?`: its query goes after a `&`. -/
theorem href_separator_in_category :
    (build [⟨some "category".toList, "Who?".toList⟩, ⟨none, "single".toList⟩]).href
      "/wiki".toList = "/wiki/Who?&_single=".toList := by
  have hquery : (build [⟨some "category".toList, "Who?".toList⟩,
      ⟨none, "single".toList⟩]).queryString ≠ [] := by decide
  rw [(href_separator hquery "/wiki".toList).1]
  decide

/-- The base does not settle the separator of every `Link.href`. -/
theorem separator_not_settled_by_base :
    ¬∀ (l : Link) (base : Text), l.queryString ≠ [] →
      l.href base = Url.pathSegment base ++ '/' :: (Url.pathSegment l.category ++
        (if '?' ∈ base then '&' else '?') :: l.queryString) := by
  intro h
  have hquery : (build [⟨some "category".toList, "Who?".toList⟩,
      ⟨none, "single".toList⟩]).queryString ≠ [] := by decide
  exact absurd (h _ "/wiki".toList hquery) (by decide)

end Link

end Facets
