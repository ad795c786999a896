import Facets.Json.Reader
import Facets.Json.Writer
import Facets.Text.Blank

/-!
# Arguments of wiki functions

A wiki hands each argument of a function over as one text, `category=Fruit` or `single`.  A
`Param` is such an argument taken apart: what stands before the first `=` is its name, and
blanks around name and value do not count.  An argument without `=` has a value and no name,
which differs from an empty name.

Arguments are stored as JSON, `ofJson?` reading what `toJson` writes.
-/

namespace Facets

/-- An argument of a wiki function. -/
structure Param where
  /-- The name, if the argument has one. -/
  name : Option Text
  value : Text
deriving DecidableEq, Inhabited

namespace Param

/-- The argument that a text writes. -/
def parse (t : Text) : Param :=
  match t.cut? '=' with
  | some (name, value) => ⟨some (Text.trimBlank name), Text.trimBlank value⟩
  | none => ⟨none, Text.trimBlank t⟩

/-- The value of the last argument whose name is in a class. -/
def lastValue? (names : List Text) (params : List Param) : Option Text :=
  params.foldl (fun found p => if p.name.any (names.contains ·) then some p.value else found) none

/-! ## Stored arguments -/

/-- The stored form of an argument; one without a name has no member for it. -/
def toJson (p : Param) : Json :=
  .fields (Json.optionalField "name" p.name ++ [("value".toList, .text p.value)])

/-- A name in a stored argument: a string, or null where there is none. -/
def nameOfJson? : Json → Option (Option Text)
  | .null => some none
  | j => j.asText?.map some

/-- The argument that a document stores, as an object or as the array of its two parts. -/
def ofJson? : Json → Option Param
  | .object members => do
    let ms ← Json.namedMembers? members
    let name ← match ← Json.atMostOne? "name" ms with
      | some j => nameOfJson? j
      | none => some none
    let value ← (← Json.exactlyOne? "value" ms).asText?
    return ⟨name, value⟩
  | .array [name, value] => do return ⟨← nameOfJson? name, ← value.asText?⟩
  | _ => none

/-- The stored form of some arguments. -/
def listToJson (params : List Param) : Json := .array (params.map toJson)

/-- The arguments that a document stores. -/
def listOfJson? (j : Json) : Option (List Param) := do (← j.asArray?).mapM ofJson?

end Param

end Facets
