import Facets.Filter.Catalog
import Facets.Json.Reader
import Facets.Json.Writer

/-!
# Stored catalogs

A catalog is stored as the JSON array of its filters.  Reading is more liberal than writing: the
settings of a filter may be missing, members of other names are passed over, a filter or setting
may be given as the array of its parts, and a key as an object with that key and null.  Keys and
names that occur again are merged, and the items of a list are made distinct.
-/

namespace Facets

/-- The stored form of a value. -/
def SettingValue.toJson : SettingValue → Json
  | .scalar t => .text t
  | .list ts => .texts ts

/-- The value that a document stores. -/
def SettingValue.ofJson? : Json → Option SettingValue
  | .array items => (Json.array items).asTexts?.map .list
  | j => j.asText?.map .scalar

/-- A value without repeated items. -/
def SettingValue.distinct : SettingValue → SettingValue
  | .scalar t => .scalar t
  | .list ts => .list (Facets.distinct ts)

/-- The key that a document stores. -/
def SettingKey.ofJson? : Json → Option SettingKey
  | .object [(name, .null)] => name.bind ofName?
  | j => j.asText?.bind ofName?

/-- The stored form of a setting. -/
def Setting.toJson (s : Setting) : Json :=
  .fields [("key".toList, .text s.key.name), ("value".toList, s.value.toJson)]

/-- The setting that a document stores. -/
def Setting.ofJson? : Json → Option Setting
  | .object members => do
    let ms ← Json.namedMembers? members
    let key ← SettingKey.ofJson? (← Json.exactlyOne? "key" ms)
    let value ← SettingValue.ofJson? (← Json.exactlyOne? "value" ms)
    return ⟨key, value⟩
  | .array [key, value] => do return ⟨← SettingKey.ofJson? key, ← SettingValue.ofJson? value⟩
  | _ => none

namespace Filter

/-- The stored form of a filter. -/
def toJson (f : Filter) : Json :=
  .fields [("name".toList, .text f.name),
    ("settings".toList, .array (f.settings.map Setting.toJson))]

/-- The filter of a name with some settings set one after the other, their lists made distinct. -/
def ofSettings (name : Text) (settings : List Setting) : Filter :=
  settings.foldl (fun f s => f.set s.key s.value.distinct) (new name)

/-- The settings that a document stores. -/
def settingsOfJson? (j : Json) : Option (List Setting) := do (← j.asArray?).mapM Setting.ofJson?

/-- The filter that a document stores. -/
def ofJson? : Json → Option Filter
  | .object members => do
    let ms ← Json.namedMembers? members
    let name ← (← Json.exactlyOne? "name" ms).asText?
    let settings ← match ← Json.atMostOne? "settings" ms with
      | some j => settingsOfJson? j
      | none => some []
    return ofSettings name settings
  | .array [name] => do return ofSettings (← name.asText?) []
  | .array [name, settings] => do return ofSettings (← name.asText?) (← settingsOfJson? settings)
  | _ => none

end Filter

namespace Catalog

/-- The stored form of a catalog. -/
def toJson (c : Catalog) : Json := .array (c.filters.map Filter.toJson)

/-- The catalog that a document stores. -/
def ofJson? (j : Json) : Option Catalog := do
  return ofList (← (← j.asArray?).mapM Filter.ofJson?)

/-- The text that a catalog is stored as. -/
def stored (c : Catalog) : Text := c.toJson.compact

/-- The catalog that is stored as a text. -/
def ofStored? (t : Text) : Option Catalog := (Json.read? t).bind ofJson?

end Catalog

end Facets
