import Facets.Info
import Facets.Link
import Facets.Proofs.JsonRoundtrip
import Facets.Proofs.TextLemmas

/-!
# Stored arguments

The arguments of a wiki function are stored as a JSON array of objects, in which an argument
without a name has no member for it.  `Param.storedText` is what such an object is written as.

Any list of arguments is read back as it was, whatever characters its texts consist of
(`Param.listOfJson?_read?`).  So what a page or a link is built from makes no difference: the
arguments themselves or those that were stored.
-/

namespace Facets

/-! ## Arrays as texts -/

namespace Json

/-- `compactItems` joins the items of an array by commas. -/
private theorem compactItems_eq_join (js : List Json) :
    compactItems js = Text.join [','] (js.map compact) := by
  induction js with
  | nil =>
    rw [compactItems]
    rfl
  | cons j js ih =>
    cases js with
    | nil =>
      rw [compactItems]
      simp
    | cons k ks =>
      rw [compactItems_cons_cons, ih]
      simp [Text.join_cons_cons]

end Json

namespace Param

/-! ## Texts of stored arguments -/

/-- What an argument is stored as: its name, unless it has none, and its value. -/
def storedText (p : Param) : Text :=
  match p.name with
  | none => "\x7b\"value\":".toList ++ Json.quote (some p.value) ++ ['}']
  | some name =>
    "\x7b\"name\":".toList ++ Json.quote (some name) ++ ",\"value\":".toList ++
      Json.quote (some p.value) ++ ['}']

/-- `Param.toJson` is written as `storedText`. -/
private theorem compact_toJson (p : Param) : p.toJson.compact = p.storedText := by
  obtain ⟨name, value⟩ := p
  have hname : Json.quote (some "name".toList) = "\"name\"".toList := by decide
  have hvalue : Json.quote (some "value".toList) = "\"value\"".toList := by decide
  cases name with
  | none =>
    -- Without a name there is one member only.
    show Json.compact (.object [(some "value".toList, .string (some value))]) = _
    rw [Json.compact, Json.compactMembers, Json.compact, hvalue]
    simp [storedText]
  | some name =>
    show Json.compact (.object [(some "name".toList, .string (some name)),
      (some "value".toList, .string (some value))]) = _
    rw [Json.compact, Json.compactMembers_cons_cons, Json.compactMembers, Json.compact,
      Json.compact, hname, hvalue]
    simp [storedText]

/-- `listToJson` is written as an array. -/
private theorem compact_listToJson (params : List Param) :
    (listToJson params).compact = '[' :: Text.join [','] (params.map storedText) ++ [']'] := by
  have hitems : (params.map toJson).map Json.compact = params.map storedText := by
    simp [compact_toJson]
  rw [listToJson, Json.compact, Json.compactItems_eq_join, hitems]

/-! ## Reading back -/

/-- `ofJson?` reads an argument back from its document, with its name if it has one. -/
theorem ofJson?_toJson (p : Param) : ofJson? p.toJson = some p := by
  obtain ⟨name, value⟩ := p
  cases name with
  | none =>
    -- No member is found under `name`, so there is no name.
    have hname : Json.atMostOne? "name" [("value".toList, .text value)] = some none := rfl
    have hvalue : Json.exactlyOne? "value" [("value".toList, .text value)] =
        some (.text value) := rfl
    show ofJson? (.fields [("value".toList, .text value)]) = _
    rw [Json.fields, ofJson?, Json.namedMembers?_fields]
    simp only [Option.bind_eq_bind, Option.bind_some, hname, hvalue, Json.asText?_text,
      Option.pure_def]
  | some name =>
    have hname : Json.atMostOne? "name" [("name".toList, .text name),
        ("value".toList, .text value)] = some (some (.text name)) := rfl
    have hvalue : Json.exactlyOne? "value" [("name".toList, .text name),
        ("value".toList, .text value)] = some (.text value) := rfl
    have hread : nameOfJson? (.text name) = some (some name) := rfl
    show ofJson? (.fields [("name".toList, .text name), ("value".toList, .text value)]) = _
    rw [Json.fields, ofJson?, Json.namedMembers?_fields]
    simp only [Option.bind_eq_bind, Option.bind_some, hname, hvalue, hread, Json.asText?_text,
      Option.pure_def]

/-- `listToJson` has no numbers. -/
private theorem numberFree_listToJson (params : List Param) : (listToJson params).NumberFree := by
  refine .array_map fun p _ => .fields fun m hm => ?_
  rw [List.mem_append, List.mem_singleton] at hm
  cases hm with
  | inl hname =>
    cases hp : p.name with
    | none => simp [hp, Json.optionalField] at hname
    | some name =>
      rw [hp, Json.optionalField, List.mem_singleton] at hname
      subst hname
      exact .string _
  | inr hvalue =>
    subst hvalue
    exact .string _

/-- `listOfJson?` reads a list of arguments back from what it is stored as. -/
theorem listOfJson?_read? (params : List Param) :
    (Json.read? (listToJson params).compact).bind listOfJson? = some params := by
  rw [Json.read?_compact (numberFree_listToJson params), Option.bind_some]
  show (params.map toJson).mapM ofJson? = some params
  exact mapM_map_self ofJson?_toJson params

/-- Lists of arguments are told apart by what `listToJson` stores them as. -/
private theorem compact_listToJson_inj {params params' : List Param} :
    (listToJson params).compact = (listToJson params').compact ↔ params = params' := by
  constructor
  · intro h
    -- What is read back does not depend on which list was stored.
    have hread := listOfJson?_read? params
    rw [h, listOfJson?_read?] at hread
    exact (Option.some.inj hread).symm
  · rintro rfl
    rfl

/-- Arguments are stored by `listToJson` as an array of their names, where they have any, and
    values, and all of them are read back as they were.  No other arguments are stored as the same
    text, so a missing name is told from an empty one, and links and pages can be built from what
    was read back. -/
theorem stored_list_roundtrip (params : List Param) :
    (listToJson params).compact = '[' :: Text.join [','] (params.map storedText) ++ [']'] ∧
      (Json.read? (listToJson params).compact).bind listOfJson? = some params ∧
      (∀ params', (listToJson params').compact = (listToJson params).compact ↔
        params' = params) ∧
      ((Json.read? (listToJson params).compact).bind listOfJson?).map Link.build =
        some (Link.build params) ∧
      ((Json.read? (listToJson params).compact).bind listOfJson?).map Info.build =
        some (Info.build params) := by
  have hread := listOfJson?_read? params
  refine ⟨compact_listToJson params, hread, fun params' => compact_listToJson_inj, ?_, ?_⟩
  · rw [hread, Option.map_some]
  · rw [hread, Option.map_some]

/-- A missing name is left out, and an empty one is not. -/
example : (listToJson [⟨none, ['v']⟩, ⟨some [], ['v']⟩]).compact =
    "[\x7b\"value\":\"v\"\x7d,\x7b\"name\":\"\",\"value\":\"v\"\x7d]".toList := by
  decide

end Param

end Facets
