import Facets.Proofs.KeyedLemmas
import Facets.Proofs.TextLemmas
import Facets.Query

/-!
# Queries under insertion and merging

Each key of a query stands once, however the query was built, and merging a query that was built
from some pairs is inserting these pairs (`Query.merge_ofList`).  So fragments of a URL can be
merged one after the other or read at once, with `&` between them (`Query.ofFragment_join`).

`Query.Reachable` says how queries are built.  On those that are built at all, merging is a union in
which the right side wins (`Query.merge_union_laws`).
-/

namespace Facets.Query

/-- Each key stands once. -/
def DistinctKeys (q : Query) : Prop := (q.pairs.map Prod.fst).Nodup

/-! ## Inserting pairs -/

/-- `insertAll` keeps the keys distinct. -/
theorem DistinctKeys.insertAll {q : Query} (h : q.DistinctKeys) (pairs : List (Text × Text)) :
    (q.insertAll pairs).DistinctKeys := Keyed.nodup_map_putAll h pairs

/-- The keys of a query that `ofList` built from pairs are distinct. -/
theorem distinctKeys_ofList (pairs : List (Text × Text)) : (ofList pairs).DistinctKeys :=
  Keyed.nodup_map_putAll_nil pairs

/-- `ofList` builds a query from its own pairs, if its keys are distinct. -/
theorem ofList_pairs {q : Query} (h : q.DistinctKeys) : ofList q.pairs = q := by
  have hput := Keyed.putAll_nil h
  rw [ofList, Query.insertAll, empty, hput]

/-- `insertAll` of `ps ++ rs` inserts `rs` after `ps`. -/
private theorem insertAll_append (q : Query) (ps rs : List (Text × Text)) :
    q.insertAll (ps ++ rs) = (q.insertAll ps).insertAll rs := by
  simp only [Query.insertAll, Keyed.putAll_append]

/-- Merging a query that `ofList` built from pairs is inserting the pairs. -/
theorem merge_ofList (q : Query) (pairs : List (Text × Text)) :
    q.merge (ofList pairs) = q.insertAll pairs := by
  -- Putting is associative, and here the pairs are put into nothing first.
  have hnil : (([] : List (Text × Text)).map Prod.fst).Nodup := List.nodup_nil
  have hput := Keyed.putAll_putAll q.pairs hnil pairs
  rw [Keyed.putAll_nil_right] at hput
  rw [merge, ofList, Query.insertAll, Query.insertAll, empty, hput, Query.insertAll]

theorem merge_empty (q : Query) : q.merge empty = q := rfl

/-- Merged into the `empty` query, a query stays as it is. -/
theorem empty_merge {q : Query} (h : q.DistinctKeys) : empty.merge q = q := ofList_pairs h

/-! ## Fragments -/

theorem distinctKeys_ofFragment (f : Text) : (ofFragment f).DistinctKeys := distinctKeys_ofList _

@[simp] theorem readPairs_nil : readPairs [] = [] := by
  simp [readPairs, Text.pieces]

/-- `readPairs` finds in fragments that are joined by `&` those of each fragment in turn. -/
theorem readPairs_join (fs : List Text) :
    readPairs (Text.join ['&'] fs) = fs.flatMap readPairs := by
  by_cases hfs : fs = []
  · -- The empty join is one empty piece, which is passed over.
    simp [hfs]
  · rw [readPairs, Text.pieces_join '&' hfs]
    induction fs with
    | nil => rfl
    | cons f fs ih =>
      -- The pieces of the fragments stand one after the other, and are cut into pairs piece by
      -- piece.
      rw [List.flatMap_cons, List.filter_append, List.map_append, List.flatMap_cons]
      by_cases hnil : fs = []
      · simp [hnil, readPairs]
      · rw [ih hnil, ← readPairs]

theorem ofFragment_nil : ofFragment [] = empty := by
  rw [ofFragment, readPairs_nil]
  rfl

private theorem normalizePairs_append (ps rs : List (Text × Text)) :
    normalizePairs (ps ++ rs) = normalizePairs ps ++ normalizePairs rs := by
  simp only [normalizePairs, List.map_append, List.filter_append]

/-- Merging a fragment is inserting the pairs that `readPairs` finds, under normalized keys. -/
theorem merge_ofFragment (q : Query) (f : Text) :
    q.merge (.ofFragment f) = q.insertAll (normalizePairs (readPairs f)) := by
  rw [ofFragment, merge_ofList]

/-- Merging fragments one after the other is `insertAll` of all their pairs. -/
private theorem foldl_merge_ofFragment (q : Query) (fs : List Text) :
    fs.foldl (fun q f => q.merge (.ofFragment f)) q =
      q.insertAll (normalizePairs (fs.flatMap readPairs)) := by
  induction fs generalizing q with
  | nil => rfl
  | cons f fs ih =>
    rw [List.foldl_cons, ih, merge_ofFragment, List.flatMap_cons, normalizePairs_append,
      insertAll_append]

/-- `ofFragment` merges fragments that are joined by `&` one after the other. -/
theorem ofFragment_join (fs : List Text) :
    ofFragment (Text.join ['&'] fs) = fs.foldl (fun q f => q.merge (.ofFragment f)) empty := by
  rw [foldl_merge_ofFragment, ofFragment, readPairs_join, ofList]

/-- Merging fragments one after the other is merging them at once, joined by `&`. -/
theorem foldl_merge_eq_merge (q : Query) (fs : List Text) :
    fs.foldl (fun q f => q.merge (.ofFragment f)) q =
      q.merge (.ofFragment (Text.join ['&'] fs)) := by
  rw [foldl_merge_ofFragment, merge_ofFragment, readPairs_join]

/-- `ofFragment` reads two fragments with `&` between them one after the other. -/
theorem ofFragment_append (f g : Text) :
    ofFragment (f ++ '&' :: g) = (ofFragment f).merge (ofFragment g) := by
  have hjoin : Text.join ['&'] [f, g] = f ++ '&' :: g := by
    rw [Text.join_cons_cons, Text.join_singleton, List.append_assoc]
    rfl
  -- The first merge is one into the empty query.
  rw [← hjoin, ofFragment_join, List.foldl_cons, List.foldl_cons, List.foldl_nil,
    empty_merge (distinctKeys_ofFragment f)]

/-! ## Queries that operations come to -/

/-- A query that was made by the operations on queries. -/
inductive Reachable : Query → Prop
  | empty : Reachable .empty
  | insert {q : Query} (h : Reachable q) (key value : Text) : Reachable (q.insert key value)
  | merge {q r : Query} (hq : Reachable q) (hr : Reachable r) : Reachable (q.merge r)
  | collect (pairs : List (Text × Text)) : Reachable (ofList pairs)
  | fragment (f : Text) : Reachable (ofFragment f)

/-- However a query was made, it has `DistinctKeys`. -/
theorem Reachable.distinctKeys {q : Query} (h : q.Reachable) : q.DistinctKeys := by
  induction h with
  | empty => exact List.nodup_nil
  | insert _ key value ih => exact Keyed.nodup_map_put ih (key, value)
  -- The keys of `r` need not be distinct: inserting pairs keeps those of `q` so in any case.
  | @merge _ r _ _ ih _ => exact ih.insertAll r.pairs
  | collect pairs => exact distinctKeys_ofList pairs
  | fragment f => exact distinctKeys_ofFragment f

/-- The `Reachable` queries are those with `DistinctKeys`, since each is collected from its pairs.
    -/
private theorem reachable_iff {q : Query} : q.Reachable ↔ q.DistinctKeys :=
  ⟨Reachable.distinctKeys, fun h => ofList_pairs h ▸ .collect q.pairs⟩

/-! ## Merging as a union -/

/-- The keys of a query, in order. -/
def keys (q : Query) : List Text := q.pairs.map Prod.fst

/-- `merge` is associative if the middle query has distinct keys. -/
private theorem merge_assoc (a : Query) {b : Query} (hb : b.DistinctKeys) (c : Query) :
    (a.merge b).merge c = a.merge (b.merge c) :=
  congrArg Query.mk (Keyed.putAll_putAll a.pairs hb c.pairs).symm

private theorem merge_self {a : Query} (ha : a.DistinctKeys) : a.merge a = a :=
  congrArg Query.mk (Keyed.putAll_self ha)

/-- Of two values `get?` finds the merged one. -/
private theorem get?_merge (a : Query) {b : Query} (hb : b.DistinctKeys) (k : Text) :
    (a.merge b).get? k = if b.contains k then b.get? k else a.get? k := by
  have hor : (a.merge b).get? k = (b.get? k).or (a.get? k) := by
    rw [get?, merge, Query.insertAll, Keyed.get?_putAll a.pairs hb, Option.map_or, get?, get?]
  rw [hor, contains]
  cases b.get? k with
  | none => rfl
  | some v => rfl

/-- `merge` keeps the keys of a query and adds the new ones. -/
private theorem keys_merge (a : Query) {b : Query} (hb : b.DistinctKeys) :
    (a.merge b).keys = a.keys ++ b.keys.filter (· ∉ a.keys) := Keyed.map_putAll a.pairs hb

/-- The `Reachable` queries are those in which each key stands once.  On them `merge` is a union in
    which the right side wins: associative, with the empty query on either side doing nothing, and
    idempotent; keys stay where they stand, and new ones follow in order.  Reading fragments that
    are joined by `&` is such a union, too. -/
theorem merge_union_laws :
    (∀ q : Query, q.Reachable ↔ q.DistinctKeys) ∧
      (∀ a b c : Query, a.Reachable → b.Reachable → c.Reachable →
        (a.merge b).merge c = a.merge (b.merge c)) ∧
      (∀ a : Query, a.Reachable → a.merge empty = a ∧ empty.merge a = a ∧ a.merge a = a) ∧
      (∀ a b : Query, a.Reachable → b.Reachable →
        (∀ k, (a.merge b).get? k = if b.contains k then b.get? k else a.get? k) ∧
          (a.merge b).keys = a.keys ++ b.keys.filter (· ∉ a.keys)) ∧
      ∀ x y : Text, ofFragment (x ++ '&' :: y) = (ofFragment x).merge (ofFragment y) := by
  refine ⟨fun q => reachable_iff, fun a b c _ hb _ => merge_assoc a hb.distinctKeys c,
    fun a ha => ?_, fun a b _ hb => ?_, ofFragment_append⟩
  · exact ⟨merge_empty a, empty_merge ha.distinctKeys, merge_self ha.distinctKeys⟩
  · exact ⟨get?_merge a hb.distinctKeys, keys_merge a hb.distinctKeys⟩

/-- Three queries with common keys: the last value of each key counts, and its first place. -/
theorem merge_union_laws_overlapping :
    (((ofList [(['a'], ['1']), (['b'], ['2'])]).merge
        (ofList [(['b'], ['3']), (['c'], ['4'])])).merge (empty.insert ['a'] ['5']) =
      (ofList [(['a'], ['1']), (['b'], ['2'])]).merge
        ((ofList [(['b'], ['3']), (['c'], ['4'])]).merge (empty.insert ['a'] ['5']))) ∧
      ((ofList [(['a'], ['1']), (['b'], ['2'])]).merge
        (ofList [(['b'], ['3']), (['c'], ['4'])])).get? ['b'] = some ['3'] ∧
      ((ofList [(['a'], ['1']), (['b'], ['2'])]).merge
        (ofList [(['b'], ['3']), (['c'], ['4'])])).keys = [['a'], ['b'], ['c']] ∧
      (ofList [(['a'], ['1']), (['b'], ['2'])]).merge (ofList [(['a'], ['1']), (['b'], ['2'])]) =
        ofList [(['a'], ['1']), (['b'], ['2'])] := by
  have ha : (ofList [(['a'], ['1']), (['b'], ['2'])]).Reachable := .collect _
  have hb : (ofList [(['b'], ['3']), (['c'], ['4'])]).Reachable := .collect _
  have hunion := merge_union_laws.2.2.2.1 _ _ ha hb
  refine ⟨merge_union_laws.2.1 _ _ _ ha hb (.insert .empty _ _), ?_, ?_,
    (merge_union_laws.2.2.1 _ ha).2.2⟩
  · rw [hunion.1]
    decide
  · rw [hunion.2]
    decide

end Facets.Query
