import Facets.Proofs.LinkAddress

/-!
# The characters of a written query

A query is written with letters, digits, `-`, `.` and `_`, with percent escapes, and with the `=`
and `&` that hold its pairs together.  So it can stand in a URL as it is (`Url.Escaped`), and its
pairs can be counted in it.

`Query.encode_injective_escaped` adds that different queries are written differently, and says what
this means for the address of a link: whatever base and category are, the query of the link brings
no character into it that ends a URL or its query.
-/

namespace Facets

/-! ## Escaped texts -/

/-- The digits that `Text.upperHex` gives for percent escapes. -/
def Text.upperHexDigits : List Char := "0123456789ABCDEF".toList

/-- `Text.upperHex` gives one of the sixteen digits. -/
private theorem Text.upperHex_mem_upperHexDigits {n : Nat} (h : n < 16) :
    upperHex n ∈ upperHexDigits := by
  have hall : ∀ n : Fin 16, upperHex n ∈ upperHexDigits := by decide
  exact hall ⟨n, h⟩

namespace Url

/-- Whether a character may stand in a written query. -/
def isQueryChar (c : Char) : Bool := c.isAlphanum || "-._%=&".toList.contains c

/-- A text with the characters of a query only, in which every `%` begins an escape. -/
structure Escaped (t : Text) : Prop where
  chars : ∀ c ∈ t, isQueryChar c = true
  escapes : ∀ before after, t = before ++ '%' :: after →
    ∃ high low rest, after = high :: low :: rest ∧
      high ∈ Text.upperHexDigits ∧ low ∈ Text.upperHexDigits

/-- No character is in an `Escaped` text for which `isQueryChar` fails. -/
theorem Escaped.not_mem {t : Text} (h : Escaped t) {c : Char} (hc : isQueryChar c = false) :
    c ∉ t := by
  intro hm
  rw [h.chars c hm] at hc
  cases hc

theorem isQueryChar_of_isBlank {c : Char} (h : Text.isBlank c = true) :
    isQueryChar c = false := by
  simp only [Text.isBlank, Bool.or_eq_true, beq_iff_eq] at h
  rcases h with ((((rfl | rfl) | rfl) | rfl) | rfl) | rfl <;> decide

theorem Escaped.nil : Escaped [] where
  chars := by simp
  escapes := by simp

/-- A character of a query that begins no escape can stand alone in an `Escaped` text. -/
private theorem Escaped.singleton {c : Char} (h : isQueryChar c = true) (hc : c ≠ '%') :
    Escaped [c] where
  chars := by simpa using h
  escapes before after heq := by
    have hmem : '%' ∈ [c] := heq ▸ by simp
    exact absurd (List.mem_singleton.mp hmem).symm hc

/-- A `%` with the two digits that follow it is `Escaped`. -/
theorem Escaped.escape {high low : Char} (hhigh : high ∈ Text.upperHexDigits)
    (hlow : low ∈ Text.upperHexDigits) : Escaped ['%', high, low] where
  chars := by
    have hall : Text.upperHexDigits.all isQueryChar = true := by decide
    have hdigit : ∀ c ∈ Text.upperHexDigits, isQueryChar c = true := List.all_eq_true.mp hall
    intro c hc
    simp only [List.mem_cons, List.not_mem_nil, or_false] at hc
    rcases hc with rfl | rfl | rfl
    · decide
    · exact hdigit _ hhigh
    · exact hdigit _ hlow
  escapes before after heq := by
    cases before with
    | nil =>
      cases heq
      exact ⟨high, low, [], rfl, hhigh, hlow⟩
    | cons c before =>
      -- No digit is a `%`.
      have hmem : '%' ∈ [high, low] := by
        rw [(List.cons.inj heq).2]
        simp
      have hdigit : '%' ∉ Text.upperHexDigits := by decide
      simp only [List.mem_cons, List.not_mem_nil, or_false] at hmem
      rcases hmem with h | h
      · exact absurd (h ▸ hhigh) hdigit
      · exact absurd (h ▸ hlow) hdigit

/-- `Escaped` texts may follow one another, since no escape goes from one into the next. -/
theorem Escaped.append {a b : Text} (ha : Escaped a) (hb : Escaped b) : Escaped (a ++ b) where
  chars c hc := (List.mem_append.mp hc).elim (ha.chars c) (hb.chars c)
  escapes before after heq := by
    rcases List.append_eq_append_iff.mp heq with ⟨as, rfl, hafter⟩ | ⟨bs, rfl, hafter⟩
    · exact hb.escapes as after hafter
    · cases bs with
      | nil => exact hb.escapes [] after hafter.symm
      | cons c bs =>
        -- The `%` is in the first text, and so are its two digits.
        rw [List.cons_append, List.cons.injEq] at hafter
        obtain ⟨rfl, rfl⟩ := hafter
        obtain ⟨high, low, rest, rfl, hhigh, hlow⟩ := ha.escapes before bs rfl
        exact ⟨high, low, rest ++ b, rfl, hhigh, hlow⟩

/-- Any number of `Escaped` texts may follow one another. -/
theorem Escaped.flatMap {α : Type} {f : α → Text} (h : ∀ x, Escaped (f x)) (xs : List α) :
    Escaped (xs.flatMap f) := by
  induction xs with
  | nil => exact .nil
  | cons x xs ih =>
    rw [List.flatMap_cons]
    exact (h x).append ih

/-- They may be joined by an `Escaped` separator. -/
theorem Escaped.join {sep : Text} {ps : List Text} (hsep : Escaped sep)
    (h : ∀ p ∈ ps, Escaped p) : Escaped (Text.join sep ps) := by
  induction ps with
  | nil => exact .nil
  | cons a ps ih =>
    rw [List.forall_mem_cons] at h
    cases ps with
    | nil =>
      rw [Text.join_singleton]
      exact h.1
    | cons b ps =>
      rw [Text.join_cons_cons]
      exact (h.1.append hsep).append (ih h.2)

end Url

/-! ## Written queries -/

private theorem Percent.escaped_encodeByte (b : UInt8) : Url.Escaped (encodeByte b) := by
  rw [encodeByte]
  split
  · rename_i hplain
    -- A plain byte is not the `%` that begins an escape.
    have hpercent : Char.ofNat b.toNat ≠ '%' := fun h =>
      (isPlain_spec hplain).2 (h ▸ List.mem_cons_self)
    refine .singleton ?_ hpercent
    simp only [isPlain, Bool.or_eq_true, beq_iff_eq] at hplain
    rcases hplain with ((h | h) | h) | h
    · rw [Url.isQueryChar, h, Bool.true_or]
    all_goals rw [h]; decide
  · have hb := b.toNat_lt
    exact .escape (Text.upperHex_mem_upperHexDigits (by omega))
      (Text.upperHex_mem_upperHexDigits (by omega))

/-- `Percent.encode` leaves no character that has a meaning in a URL. -/
theorem Percent.escaped_encode (t : Text) : Url.Escaped (encode t) :=
  .flatMap escaped_encodeByte _

namespace Query

private theorem escaped_encodePair (p : Text × Text) : Url.Escaped (encodePair p) := by
  have hequals : Url.Escaped ['='] := .singleton (by decide) (by decide)
  rw [encodePair, List.append_cons]
  exact ((Percent.escaped_encode p.1).append hequals).append (Percent.escaped_encode p.2)

/-- `Query.encode` gives an `Escaped` text. -/
theorem escaped_encode (q : Query) : Url.Escaped q.encode := by
  rw [encode_eq_join]
  refine .join (.singleton (by decide) (by decide)) fun t ht => ?_
  obtain ⟨p, -, rfl⟩ := List.mem_map.mp ht
  exact escaped_encodePair p

/-- The only `=` that `encodePair` writes is the one between key and value. -/
private theorem count_equals_encodePair (p : Text × Text) : (encodePair p).count '=' = 1 := by
  have hkey := List.count_eq_zero_of_not_mem (Percent.not_mem_encode (c := '=') (by decide) p.1)
  have hvalue := List.count_eq_zero_of_not_mem (Percent.not_mem_encode (c := '=') (by decide) p.2)
  rw [encodePair, List.count_append, List.count_cons_self, hkey, hvalue]

/-- `Query.encode` writes one `=` for each pair. -/
private theorem count_equals_encode (q : Query) : q.encode.count '=' = q.size := by
  have hsep : ['&'].count '=' = 0 := by decide
  have hpair : List.count '=' ∘ encodePair = fun _ => 1 := funext count_equals_encodePair
  -- The separators have none, so the pairs are counted.
  rw [encode_eq_join, Text.count_join, hsep, List.count_flatten, List.map_map, hpair]
  simp [size]

/-- `Query.encode` writes one `&` less than there are pairs. -/
private theorem count_ampersand_encode (q : Query) : q.encode.count '&' = q.size - 1 := by
  have hsep : ['&'].count '&' = 1 := by decide
  have hpair : List.count '&' ∘ encodePair = fun _ => 0 :=
    funext fun p => List.count_eq_zero_of_not_mem (ampersand_not_mem_encodePair p)
  rw [encode_eq_join, Text.count_join, hsep, List.count_flatten, List.map_map, hpair]
  simp [size]

/-- A query is known from what `encode` writes, since its pairs are read from there. -/
private theorem encode_injective : Function.Injective encode := by
  intro q r h
  have hpairs : q.pairs = r.pairs := by rw [← readPairs_encode, h, readPairs_encode]
  cases q
  cases r
  exact congrArg mk hpairs

end Query

/-! ## Addresses of links -/

namespace Url

private theorem space_not_mem_pathSegment (t : Text) : ' ' ∉ pathSegment t := by
  intro h
  obtain ⟨c, -, heq⟩ := List.mem_map.mp h
  split at heq
  · cases heq
  · rename_i hc
    exact hc heq

/-- `appendQuery` appends a query as it stands, after a separator if there is a query. -/
private theorem appendQuery_eq (url query : Text) : ∃ separator ∈ ['?', '&'],
    appendQuery url query = url ++ if query = [] then [] else separator :: query := by
  refine ⟨if '?' ∈ url then '&' else '?', ?_, ?_⟩
  · split <;> simp
  · rw [appendQuery]
    split
    · rw [List.append_nil]
    · rfl

/-- What is in a URL after `appendQuery` is in the URL or in the query, the separator apart. -/
private theorem of_mem_appendQuery {url query : Text} {c : Char} (h : c ∈ appendQuery url query)
    (hc : c ∉ ['?', '&']) : c ∈ url ∨ c ∈ query := by
  obtain ⟨separator, hseparator, heq⟩ := appendQuery_eq url query
  rw [heq, List.mem_append] at h
  refine h.imp_right fun h => ?_
  split at h
  · cases h
  · rcases List.mem_cons.mp h with rfl | h
    · exact absurd hseparator hc
    · exact h

/-- `appendQuery` brings no character into the `queryPart` that the query does not have. -/
private theorem mem_queryPart_appendQuery {query : Text} {c : Char} (hquery : c ∉ query)
    (hc : c ≠ '&') (url : Text) : c ∈ queryPart (appendQuery url query) ↔ c ∈ queryPart url := by
  by_cases hnil : query = []
  · rw [appendQuery, if_pos hnil]
  · rw [queryPart_appendQuery hnil]
    split
    · -- The query follows the one of the URL, after a `&`.
      simp [hquery, hc]
    · rename_i hurl
      -- The query is all there is, and the URL had none.
      simp [hquery, queryPart_of_not_mem hurl]

end Url

namespace Link

/-- No character that ends a URL, its query or an attribute is in a `queryString`. -/
private theorem not_mem_queryString {c : Char} (hc : c ∈ " ?#+*\"'<>".toList) (l : Link) :
    c ∉ l.queryString := by
  have hall : " ?#+*\"'<>".toList.all (fun c => !Url.isQueryChar c) = true := by decide
  have hchar := List.all_eq_true.mp hall c hc
  exact (Query.escaped_encode l.query).not_mem (by simpa using hchar)

private theorem space_not_mem_href (l : Link) (base : Text) : ' ' ∉ l.href base := by
  intro h
  rcases Url.of_mem_appendQuery h (by decide) with h | h
  · exact Url.space_not_mem_pathSegment _ h
  · exact not_mem_queryString (by decide) l h

end Link

/-- Different queries are written differently by `Query.encode`, each with the characters of a URL
    only, every `%` before two digits, one `=` for each pair and one `&` between two pairs.  The
    `href` of a link has a path part, which is made of base and category, and the written query of
    the link.  So there is no space in the address, and no character in its query that would have to
    be escaped.  Where base or category have a `?`, only they bring such characters behind it. -/
theorem Query.encode_injective_escaped :
    Function.Injective encode ∧
      (∀ q : Query, Url.Escaped q.encode ∧ q.encode.count '=' = q.size ∧
        q.encode.count '&' = q.size - 1) ∧
      ∀ (l : Link) (base : Text), ' ' ∉ l.href base ∧
        (∃ separator ∈ ['?', '&'],
          l.href base = Url.pathSegment (base ++ '/' :: l.category) ++
            if l.query.encode = [] then [] else separator :: l.query.encode) ∧
        ∀ c ∈ "?#+*\"'<>".toList, c ∉ l.query.encode ∧
          (c ∈ Url.queryPart (l.href base) ↔
            c ∈ Url.queryPart (Url.pathSegment (base ++ '/' :: l.category))) := by
  refine ⟨encode_injective, fun q => ⟨escaped_encode q, count_equals_encode q,
    count_ampersand_encode q⟩, fun l base => ⟨l.space_not_mem_href base,
    Url.appendQuery_eq _ l.queryString, fun c hc => ?_⟩⟩
  have hquery : c ∉ l.queryString := Link.not_mem_queryString (List.mem_cons_of_mem ' ' hc) l
  have hne : c ≠ '&' := by
    rintro rfl
    exact absurd hc (by decide)
  exact ⟨hquery, Url.mem_queryPart_appendQuery hquery hne _⟩

/-- A key with a space and one with a `+` are written differently.  The `+` of the second one is not
    in the address of a link, while the one of a base with a query stays there. -/
theorem Query.encode_injective_escaped_plus :
    encode ⟨[("a b".toList, [])]⟩ ≠ encode ⟨[("a+b".toList, [])]⟩ ∧
      '+' ∈ "?#+*\"'<>".toList ∧
      '+' ∉ encode ⟨[("a+b".toList, [])]⟩ ∧
      '+' ∉ Url.queryPart
        (Link.href ⟨"x y".toList, ⟨[("a+b".toList, [])]⟩, [], none⟩ "/wiki".toList) ∧
      '+' ∈ Url.queryPart
        (Link.href ⟨"x y".toList, ⟨[("a+b".toList, [])]⟩, [], none⟩ "/wiki?q=+".toList) := by
  have hplus : '+' ∈ "?#+*\"'<>".toList := by decide
  have hdifferent : (⟨[("a b".toList, [])]⟩ : Query) ≠ ⟨[("a+b".toList, [])]⟩ := by decide
  have hhref := encode_injective_escaped.2.2 ⟨"x y".toList, ⟨[("a+b".toList, [])]⟩, [], none⟩
  have hnoquery := (hhref "/wiki".toList).2.2 '+' hplus
  have hbase := (hhref "/wiki?q=+".toList).2.2 '+' hplus
  refine ⟨encode_injective_escaped.1.ne hdifferent, hplus, hnoquery.1, fun h => ?_,
    hbase.2.mpr (by decide)⟩
  exact absurd (hnoquery.2.mp h) (by decide)

end Facets
