import Facets.Proofs.LinkClosedForm
import Mathlib.Tactic.TFAE

/-!
# Queries and the fragments they are written as

What `Query.encode` writes is read as the pairs of the query, whatever characters they consist of
(`Query.readPairs_encode`).  Reading then normalizes the keys, so that a query is read back just
when its keys are normal, and these are just the queries that are read from some fragment.

`Query.encode` replaces characters of the form encoding; `Query.encode_eq_join` says what it comes
to, pair by pair.
-/

namespace Facets.Query

/-! ## Normal keys -/

/-- A key that reading leaves as it is and does not drop. -/
structure IsNormalKey (key : Text) : Prop where
  ne_nil : key ≠ []
  dot_not_mem : '.' ∉ key
  space_not_mem : ' ' ∉ key

/-- `normalizeKey` leaves a key without dots and spaces as it is. -/
private theorem normalizeKey_of_isNormalKey {key : Text} (h : IsNormalKey key) :
    normalizeKey key = key := by
  -- Nothing is dropped at the front, since the first character is no space.
  have hdrop : key.dropWhile (· = ' ') = key := by
    cases key with
    | nil => rfl
    | cons c cs =>
      have hc : c ≠ ' ' := fun e => h.space_not_mem (e ▸ List.mem_cons_self)
      rw [List.dropWhile_cons_of_neg (by simpa using hc)]
  have hchar : ∀ c ∈ key, (if c = '.' ∨ c = ' ' then '_' else c) = id c := by
    intro c hc
    have hdot : c ≠ '.' := fun e => h.dot_not_mem (e ▸ hc)
    have hspace : c ≠ ' ' := fun e => h.space_not_mem (e ▸ hc)
    rw [if_neg (not_or.mpr ⟨hdot, hspace⟩), id]
  rw [normalizeKey, hdrop, List.map_congr_left hchar, List.map_id]

/-- What `normalizeKey` gives has neither dots nor spaces. -/
private theorem isNormalKey_normalizeKey {key : Text} (h : normalizeKey key ≠ []) :
    IsNormalKey (normalizeKey key) := by
  have hall : ∀ c ∈ normalizeKey key, c ≠ '.' ∧ c ≠ ' ' := by
    intro c hc
    obtain ⟨x, -, rfl⟩ := List.mem_map.mp hc
    split
    · decide
    · rename_i hx
      exact not_or.mp hx
  exact ⟨h, fun hm => (hall _ hm).1 rfl, fun hm => (hall _ hm).2 rfl⟩

/-- `normalizePairs` leaves pairs with normal keys as they are. -/
private theorem normalizePairs_of_isNormalKey {pairs : List (Text × Text)}
    (h : ∀ p ∈ pairs, IsNormalKey p.1) : normalizePairs pairs = pairs := by
  induction pairs with
  | nil => rfl
  | cons p ps ih =>
    have hp := h p List.mem_cons_self
    have hps := ih fun r hr => h r (List.mem_cons_of_mem p hr)
    rw [normalizePairs] at hps ⊢
    rw [List.map_cons, normalizeKey_of_isNormalKey hp,
      List.filter_cons_of_pos (by simpa using hp.ne_nil), hps]

/-- The keys of a query that `ofFragment` read are normal. -/
private theorem isNormalKey_of_mem_ofFragment {f : Text} {p : Text × Text}
    (h : p ∈ (ofFragment f).pairs) : IsNormalKey p.1 := by
  -- All pairs have been inserted into the empty query.
  rcases Keyed.mem_putAll h with h | h
  · obtain ⟨hmem, hne⟩ := List.mem_filter.mp h
    obtain ⟨r, -, rfl⟩ := List.mem_map.mp hmem
    exact isNormalKey_normalizeKey (by simpa using hne)
  · cases h

/-! ## Inserting what was read -/

/-- A query with a pair inserted under its normalized key, or as it is if that key is empty. -/
def insertNormalized (q : Query) (p : Text × Text) : Query :=
  if normalizeKey p.1 = [] then q else q.insert (normalizeKey p.1) p.2

/-- Normalizing all pairs and inserting them is `insertNormalized`, one pair after the other. -/
private theorem insertAll_normalizePairs (q : Query) (pairs : List (Text × Text)) :
    q.insertAll (normalizePairs pairs) = pairs.foldl insertNormalized q := by
  induction pairs generalizing q with
  | nil => rfl
  | cons p ps ih =>
    rw [List.foldl_cons, ← ih, insertNormalized]
    by_cases hp : normalizeKey p.1 = []
    · simp [normalizePairs, hp]
    · rw [if_neg hp]
      simp [normalizePairs, hp, insertAll, Keyed.putAll, insert]

/-! ## What is written -/

/-- A pair as it stands in a URL. -/
def encodePair (p : Text × Text) : Text := Percent.encode p.1 ++ '=' :: Percent.encode p.2

/-- `formPair` comes to `encodePair`, since `=` is not replaced. -/
private theorem escapeForm_formPair (p : Text × Text) :
    Percent.escapeForm (formPair p) = encodePair p := by
  have hequals : Percent.escapeForm ['='] = ['='] :=
    Percent.escapeForm_singleton (by decide) (by decide)
  rw [formPair, encodePair, List.append_cons, Percent.escapeForm_append,
    Percent.escapeForm_append, Percent.escapeForm_formEncode, hequals,
    Percent.escapeForm_formEncode, ← List.append_cons]

/-- `Query.encode` writes the pairs of a query one after the other, with `&` between them. -/
theorem encode_eq_join (q : Query) : q.encode = Text.join ['&'] (q.pairs.map encodePair) := by
  have hampersand : Percent.escapeForm ['&'] = ['&'] :=
    Percent.escapeForm_singleton (by decide) (by decide)
  rw [encode, formEncode]
  induction q.pairs with
  | nil => rfl
  | cons p ps ih =>
    cases ps with
    | nil => simp only [List.map_cons, List.map_nil, Text.join_singleton, escapeForm_formPair]
    | cons r rs =>
      simp only [List.map_cons] at ih ⊢
      -- The replacements go part by part, and leave the separator as it is.
      rw [Text.join_cons_cons, Text.join_cons_cons, Percent.escapeForm_append,
        Percent.escapeForm_append, escapeForm_formPair, hampersand, ih]

/-! ## Reading what was written -/

/-- `readPair` reads a pair back from what `encodePair` writes. -/
private theorem readPair_encodePair (p : Text × Text) : readPair (encodePair p) = p := by
  -- The first `=` is the one between key and value, since an escaped key has none.
  have hcut := Text.cut?_append (Percent.not_mem_encode (c := '=') (by decide) p.1)
    (Percent.encode p.2)
  rw [readPair, encodePair, hcut]
  simp only [Percent.decode_encode]

/-- No `&` is in what `encodePair` writes, so a pair is one piece. -/
theorem ampersand_not_mem_encodePair (p : Text × Text) : '&' ∉ encodePair p := by
  have hkey := Percent.not_mem_encode (c := '&') (by decide) p.1
  have hvalue := Percent.not_mem_encode (c := '&') (by decide) p.2
  simp [encodePair, hkey, hvalue]

/-- `readPairs` finds the pairs of a query in what `encode` writes, in order. -/
theorem readPairs_encode (q : Query) : readPairs q.encode = q.pairs := by
  -- A pair is one piece, and not an empty one.
  have hpair : ∀ p, readPairs (encodePair p) = [p] := by
    intro p
    have hne : encodePair p ≠ [] := by simp [encodePair]
    rw [readPairs, Text.pieces_of_not_mem (ampersand_not_mem_encodePair p)]
    simp [hne, readPair_encodePair]
  rw [encode_eq_join, readPairs_join, List.flatMap_map]
  simp only [hpair, List.flatMap_singleton']

/-- `ofFragment` reads what `encode` writes by inserting its pairs under normalized keys. -/
private theorem ofFragment_encode_eq (q : Query) :
    ofFragment q.encode = q.pairs.foldl insertNormalized empty := by
  rw [ofFragment, readPairs_encode, ofList, insertAll_normalizePairs]

/-- `ofFragment` reads a query with normal keys back. -/
private theorem ofFragment_encode_of_isNormalKey {q : Query} (hdistinct : q.DistinctKeys)
    (hnormal : ∀ p ∈ q.pairs, IsNormalKey p.1) : ofFragment q.encode = q := by
  rw [ofFragment, readPairs_encode, normalizePairs_of_isNormalKey hnormal,
    ofList_pairs hdistinct]

/-- A query that `ofFragment` read is read back. -/
theorem ofFragment_encode_ofFragment (f : Text) :
    ofFragment (ofFragment f).encode = ofFragment f := by
  have hdistinct : (ofFragment f).DistinctKeys := distinctKeys_ofList _
  exact ofFragment_encode_of_isNormalKey hdistinct fun _ hp => isNormalKey_of_mem_ofFragment hp

/-- What `encode` writes is read by inserting the pairs under normalized keys.  So a query is read
    back just if its keys are normal, and these are just the queries that `ofFragment` reads from
    some fragment; the query of a link is one of them. -/
theorem ofFragment_encode :
    (∀ q : Query, ofFragment q.encode = q.pairs.foldl insertNormalized empty) ∧
      (∀ q : Query, q.DistinctKeys →
        [ofFragment q.encode = q, ∀ p ∈ q.pairs, IsNormalKey p.1, ∃ f, q = ofFragment f].TFAE) ∧
      ∀ params, ofFragment (Link.build params).queryString = (Link.build params).query := by
  refine ⟨ofFragment_encode_eq, ?_, ?_⟩
  · intro q hdistinct
    -- A query that is read back was read from what it is written as.
    tfae_have 1 → 3 := fun h => ⟨q.encode, h.symm⟩
    tfae_have 3 → 2 := by
      rintro ⟨f, rfl⟩ p hp
      exact isNormalKey_of_mem_ofFragment hp
    tfae_have 2 → 1 := ofFragment_encode_of_isNormalKey hdistinct
    tfae_finish
  · intro params
    rw [Link.queryString, Link.query_build, ofFragment_encode_ofFragment]

/-- A query with the key `a` is read back, and one with the key `a.b` is not. -/
theorem ofFragment_encode_dotted :
    ofFragment (encode ⟨[("a".toList, "1&2".toList)]⟩) = ⟨[("a".toList, "1&2".toList)]⟩ ∧
      ofFragment (encode ⟨[("a.b".toList, [])]⟩) ≠ ⟨[("a.b".toList, [])]⟩ := by
  have hplain := ofFragment_encode.2.1 ⟨[("a".toList, "1&2".toList)]⟩ (List.nodup_singleton _)
  have hdotted := ofFragment_encode.2.1 ⟨[("a.b".toList, [])]⟩ (List.nodup_singleton _)
  constructor
  · apply (hplain.out 0 1).mpr
    intro p hp
    rw [List.mem_singleton.mp hp]
    exact ⟨by decide, by decide, by decide⟩
  · intro h
    have hiff : _ ↔ ∀ p ∈ [("a.b".toList, [])], IsNormalKey p.1 := hdotted.out 0 1
    have hnormal := hiff.mp h ("a.b".toList, []) List.mem_cons_self
    exact hnormal.dot_not_mem (by decide)

end Facets.Query
