import Facets.Text.Basic

/-!
# JSON documents

`Json` is the tree of a document.  Numbers are kept as they are written, and members in the
order in which they stand, repeated names included.

The content of a string is a text, or no text at all: the escapes of a string may name half of a
surrogate pair, and no text holds one.  Such a string is well formed, so that a document can be
read around it, but nothing can be read from it.
-/

namespace Facets

/-- The content of a string: a text, or none where an escape names half of a surrogate pair. -/
abbrev JsonString := Option Text

/-- A JSON document. -/
inductive Json where
  | null
  | bool (b : Bool)
  | number (literal : Text)
  | string (content : JsonString)
  | array (items : List Json)
  | object (members : List (JsonString × Json))

namespace Json

/-- The string of a text. -/
def text (t : Text) : Json := .string (some t)

/-- The array of some strings. -/
def texts (ts : List Text) : Json := .array (ts.map text)

/-- The object with members of these names. -/
def fields (ms : List (Text × Json)) : Json := .object (ms.map fun m => (some m.1, m.2))

/-- A member that is there only if it has a value. -/
def optionalField (name : String) (value : Option Text) : List (Text × Json) :=
  match value with
  | some t => [(name.toList, text t)]
  | none => []

/-- The text that a document consists of. -/
def asText? : Json → Option Text
  | .string content => content
  | _ => none

/-- The items of an array. -/
def asArray? : Json → Option (List Json)
  | .array items => some items
  | _ => none

/-- The texts that an array of strings consists of. -/
def asTexts? (j : Json) : Option (List Text) := do (← j.asArray?).mapM asText?

/-- The members with their names as texts, if all the names are texts. -/
def namedMembers? (ms : List (JsonString × Json)) : Option (List (Text × Json)) :=
  ms.mapM fun m => m.1.map fun name => (name, m.2)

/-- The member of a name, which may be missing but not repeated: `none` where it is repeated. -/
def atMostOne? (name : String) (ms : List (Text × Json)) : Option (Option Json) :=
  match ms.filter (·.1 = name.toList) with
  | [] => some none
  | [m] => some (some m.2)
  | _ => none

/-- The member of a name, which may be neither missing nor repeated. -/
def exactlyOne? (name : String) (ms : List (Text × Json)) : Option Json :=
  (atMostOne? name ms).bind id

end Json

end Facets
