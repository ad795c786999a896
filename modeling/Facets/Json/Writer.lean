import Facets.Json.Basic
import Facets.Text.Digits

/-!
# Writing JSON

`Json.compact` writes a document without any blank; `Json.pretty` gives every item and member a
line of its own, indented by two spaces for each level, and writes empty containers on one
line.

In strings the quotation mark, the backslash and the control characters below the space are
escaped, by their short escapes where there are any; all else stands as it is.

Not every document can be written: the names of members must be texts.  `Json.writeCompact` and
`Json.writePretty` write those that can.
-/

namespace Facets.Json

/-- A character in a string. -/
def escapeChar (c : Char) : Text :=
  if c = '"' then ['\\', '"']
  else if c = '\\' then ['\\', '\\']
  else if c = '\x08' then ['\\', 'b']
  else if c = '\t' then ['\\', 't']
  else if c = '\n' then ['\\', 'n']
  else if c = '\x0c' then ['\\', 'f']
  else if c = '\r' then ['\\', 'r']
  else if c.toNat < 0x20 then
    ['\\', 'u', '0', '0', Text.lowerHex (c.toNat / 16), Text.lowerHex (c.toNat % 16)]
  else [c]

/-- A string with its quotation marks.  Content that is no text is written as one escape of half
    a surrogate pair, which reads back as no text. -/
def quote : JsonString → Text
  | some t => '"' :: t.flatMap escapeChar ++ ['"']
  | none => '"' :: "\\ud800".toList ++ ['"']

/-- A truth value. -/
def boolText (b : Bool) : Text := if b then "true".toList else "false".toList

mutual

/-- A document without blanks. -/
def compact : Json → Text
  | .null => "null".toList
  | .bool b => boolText b
  | .number literal => literal
  | .string content => quote content
  | .array items => '[' :: compactItems items ++ [']']
  | .object members => '{' :: compactMembers members ++ ['}']

/-- The items of an array with commas between them. -/
def compactItems : List Json → Text
  | [] => []
  | [j] => compact j
  | j :: js => compact j ++ ',' :: compactItems js

/-- The members of an object with commas between them. -/
def compactMembers : List (JsonString × Json) → Text
  | [] => []
  | [(name, j)] => quote name ++ ':' :: compact j
  | (name, j) :: ms => quote name ++ ':' :: compact j ++ ',' :: compactMembers ms

end

/-- The start of a line, indented by two spaces for each level. -/
def newLine (level : Nat) : Text := '\n' :: List.replicate (2 * level) ' '

mutual

/-- A document that begins at some level of indentation. -/
def prettyAt (level : Nat) : Json → Text
  | .array [] => "[]".toList
  | .array items => '[' :: prettyItems (level + 1) items ++ newLine level ++ [']']
  | .object [] => "\x7b\x7d".toList
  | .object members => '{' :: prettyMembers (level + 1) members ++ newLine level ++ ['}']
  | .null => "null".toList
  | .bool b => boolText b
  | .number literal => literal
  | .string content => quote content

/-- The items of an array, each on a line of its own. -/
def prettyItems (level : Nat) : List Json → Text
  | [] => []
  | [j] => newLine level ++ prettyAt level j
  | j :: js => newLine level ++ prettyAt level j ++ ',' :: prettyItems level js

/-- The members of an object, each on a line of its own. -/
def prettyMembers (level : Nat) : List (JsonString × Json) → Text
  | [] => []
  | [(name, j)] => newLine level ++ quote name ++ ": ".toList ++ prettyAt level j
  | (name, j) :: ms =>
    newLine level ++ quote name ++ ": ".toList ++ prettyAt level j ++ ',' :: prettyMembers level ms

end

/-- A document with a line for every item and member. -/
def pretty (j : Json) : Text := prettyAt 0 j

/-! ## Documents that can be written -/

/-- Why a document cannot be written. -/
inductive WriteError where
  /-- The name of a member is no text. -/
  | nameNotText
deriving DecidableEq

/-- The text of an error. -/
def WriteError.message : WriteError → Text
  | .nameNotText => "key must be a string".toList

mutual

/-- Whether all members of a document, and of what is in it, have texts for names. -/
def hasTextNames : Json → Bool
  | .array items => itemsHaveTextNames items
  | .object members => membersHaveTextNames members
  | .null | .bool _ | .number _ | .string _ => true

/-- Whether this is so of all items of an array. -/
def itemsHaveTextNames : List Json → Bool
  | [] => true
  | j :: js => hasTextNames j && itemsHaveTextNames js

/-- Whether this is so of all members of an object and of their names. -/
def membersHaveTextNames : List (JsonString × Json) → Bool
  | [] => true
  | (name, j) :: ms => name.isSome && hasTextNames j && membersHaveTextNames ms

end

/-- A document without blanks, if it can be written. -/
def writeCompact (j : Json) : Except WriteError Text :=
  if j.hasTextNames then .ok j.compact else .error .nameNotText

/-- A document with a line for every item and member, if it can be written. -/
def writePretty (j : Json) : Except WriteError Text :=
  if j.hasTextNames then .ok j.pretty else .error .nameNotText

/-- The items of an array decide on `hasTextNames`. -/
@[simp]
theorem hasTextNames_array (js : List Json) : (array js).hasTextNames = js.all hasTextNames := by
  rw [hasTextNames]
  induction js with
  | nil => rw [itemsHaveTextNames, List.all_nil]
  | cons j js ih => rw [itemsHaveTextNames, ih, List.all_cons]

/-- `Json.fields` has texts for names, so its members decide on it. -/
@[simp]
theorem hasTextNames_fields (ms : List (Text × Json)) :
    (fields ms).hasTextNames = ms.all fun m => m.2.hasTextNames := by
  rw [fields, hasTextNames]
  induction ms with
  | nil => rw [List.map_nil, membersHaveTextNames, List.all_nil]
  | cons m ms ih => rw [List.map_cons, membersHaveTextNames, ih, Option.isSome_some, List.all_cons,
      Bool.true_and]

@[simp]
theorem hasTextNames_text (t : Text) : (text t).hasTextNames = true := by rw [text, hasTextNames]

@[simp]
theorem hasTextNames_texts (ts : List Text) : (texts ts).hasTextNames = true := by simp [texts]

/-- An `optionalField`, which may be missing, never stands in the way of writing. -/
@[simp]
theorem hasTextNames_optionalField (name : String) (value : Option Text) :
    ((optionalField name value).all fun m => m.2.hasTextNames) = true := by
  cases value <;> simp [optionalField]

/-- `writeCompact` writes a document in which all names are texts. -/
theorem writeCompact_of_hasTextNames {j : Json} (h : j.hasTextNames = true) :
    j.writeCompact = .ok j.compact := if_pos h

/-- So does `writePretty`. -/
theorem writePretty_of_hasTextNames {j : Json} (h : j.hasTextNames = true) :
    j.writePretty = .ok j.pretty := if_pos h

end Facets.Json
