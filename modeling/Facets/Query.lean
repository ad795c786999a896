import Facets.Json.Writer
import Facets.Keyed
import Facets.Text.Percent

/-!
# Queries

A query is a list of pairs in which each key stands once; setting a key again keeps its place.
`Query.ofFragment` reads the query part of a URL and `Query.encode` writes it.

A key that is read loses its leading spaces, and its dots and other spaces become underscores;
a pair whose key is empty after that is dropped.  A key that is inserted stays as it is.
-/

namespace Facets

/-- An ordered query. -/
structure Query where
  pairs : List (Text × Text)
deriving DecidableEq, Inhabited

namespace Query

/-- The query without pairs. -/
def empty : Query := ⟨[]⟩

/-- The number of pairs. -/
def size (q : Query) : Nat := q.pairs.length

/-- Whether a query has no pairs. -/
def isEmpty (q : Query) : Bool := q.pairs.isEmpty

/-- The value of a key. -/
def get? (q : Query) (key : Text) : Option Text := (Keyed.get? Prod.fst key q.pairs).map Prod.snd

/-- Whether a query has a key. -/
def contains (q : Query) (key : Text) : Bool := (q.get? key).isSome

/-- A query with a key set to a value. -/
def insert (q : Query) (key value : Text) : Query := ⟨Keyed.put Prod.fst (key, value) q.pairs⟩

/-- A query with some pairs inserted, one after the other. -/
def insertAll (q : Query) (pairs : List (Text × Text)) : Query :=
  ⟨Keyed.putAll Prod.fst q.pairs pairs⟩

/-- The query of some pairs, of which the last value of each key counts. -/
def ofList (pairs : List (Text × Text)) : Query := empty.insertAll pairs

/-- A query overwritten and extended by another one. -/
def merge (q r : Query) : Query := q.insertAll r.pairs

/-! ## Reading and writing -/

/-- A key as it is kept when it is read. -/
def normalizeKey (key : Text) : Text :=
  (key.dropWhile (· = ' ')).map fun c => if c = '.' ∨ c = ' ' then '_' else c

/-- The pair that a piece of a fragment writes; without `=` its value is empty. -/
def readPair (piece : Text) : Text × Text :=
  match Text.cut? '=' piece with
  | some (key, value) => (Percent.decode key, Percent.decode value)
  | none => (Percent.decode piece, [])

/-- The pairs that a fragment writes, as they stand in it. -/
def readPairs (fragment : Text) : List (Text × Text) :=
  ((Text.pieces '&' fragment).filter (· ≠ [])).map readPair

/-- The pairs of which keys are kept, the keys as they are kept. -/
def normalizePairs (pairs : List (Text × Text)) : List (Text × Text) :=
  (pairs.map fun p => (normalizeKey p.1, p.2)).filter (·.1 ≠ [])

/-- The query that a fragment writes. -/
def ofFragment (fragment : Text) : Query := ofList (normalizePairs (readPairs fragment))

/-- A pair in the form encoding. -/
def formPair (p : Text × Text) : Text := Percent.formEncode p.1 ++ '=' :: Percent.formEncode p.2

/-- A query in the form encoding. -/
def formEncode (q : Query) : Text := Text.join ['&'] (q.pairs.map formPair)

/-- A query as it stands in a URL. -/
def encode (q : Query) : Text := Percent.escapeForm q.formEncode

/-- A query as a JSON object. -/
def toJson (q : Query) : Json := .fields (q.pairs.map fun p => (p.1, .text p.2))

/-! ## Looking up what was inserted -/

/-- `get?` finds the value that `insert` gave a key, and under other keys what was there. -/
theorem get?_insert (q : Query) (key value k : Text) :
    (q.insert key value).get? k = if key = k then some value else q.get? k := by
  simp only [insert, get?, Keyed.get?_put]
  split <;> rfl

end Query

end Facets
