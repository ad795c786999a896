import Facets.Filter.Stored
import Facets.Proofs.JsonRoundtrip
import Facets.Proofs.KeyedLemmas

/-!
# Stored catalogs

A catalog in which each name and each key stands once is read back from what it is stored as, with
the repeated items of its lists erased (`Catalog.ofStored?_stored`).  A catalog that was read from
a stored text has no such items, nor a name or key twice (`Catalog.distinct_of_ofStored?`).

The round trip goes part by part through the JSON documents; `Json.read?_compact` carries it over
to texts.
-/

namespace Facets

/-! ## Catalogs without repetitions -/

/-- Whether no item of a value is repeated. -/
def SettingValue.DistinctItems : SettingValue → Prop
  | .scalar _ => True
  | .list ts => ts.Nodup

/-- A value without the repeated items of a list, the first ones kept. -/
def SettingValue.eraseDups : SettingValue → SettingValue
  | .scalar t => .scalar t
  | .list ts => .list ts.eraseDups

/-- A setting without the repeated items of a list. -/
def Setting.eraseDups (s : Setting) : Setting := { s with value := s.value.eraseDups }

/-- A filter without the repeated items of its lists. -/
def Filter.eraseDups (f : Filter) : Filter :=
  { f with settings := f.settings.map Setting.eraseDups }

/-- A catalog without the repeated items of its lists. -/
def Catalog.eraseDups (c : Catalog) : Catalog := ⟨c.filters.map Filter.eraseDups⟩

/-- Each key of a filter stands once. -/
def Filter.DistinctKeys (f : Filter) : Prop := (f.settings.map Setting.key).Nodup

/-- No item of a list of a filter is repeated. -/
def Filter.DistinctItems (f : Filter) : Prop := ∀ s ∈ f.settings, s.value.DistinctItems

/-- Each name of a catalog stands once, and each key of its filters. -/
structure Catalog.DistinctKeys (c : Catalog) : Prop where
  names : c.names.Nodup
  filters : ∀ f ∈ c.filters, f.DistinctKeys

/-- No item of a list of a catalog is repeated. -/
def Catalog.DistinctItems (c : Catalog) : Prop := ∀ f ∈ c.filters, f.DistinctItems

/-- `SettingValue.distinct` makes the items of a value distinct by erasing the repeated ones. -/
theorem SettingValue.distinct_eq_eraseDups (v : SettingValue) : v.distinct = v.eraseDups := by
  cases v with
  | scalar t => rfl
  | list ts => rw [distinct, eraseDups, Facets.distinct_eq_eraseDups]

/-- `SettingValue.eraseDups` changes nothing just if no item is repeated. -/
private theorem SettingValue.eraseDups_eq_self_iff {v : SettingValue} :
    v.eraseDups = v ↔ v.DistinctItems := by
  cases v with
  | scalar t => exact iff_of_true rfl trivial
  | list ts =>
    rw [eraseDups, ← Facets.distinct_eq_eraseDups, SettingValue.list.injEq, distinct_eq_self_iff]
    rfl

/-- `SettingValue.eraseDups` leaves no item repeated. -/
private theorem SettingValue.distinctItems_eraseDups (v : SettingValue) :
    v.eraseDups.DistinctItems := by
  cases v with
  | scalar t => trivial
  | list ts =>
    rw [eraseDups, ← Facets.distinct_eq_eraseDups]
    exact nodup_distinct ts

/-- `map` changes nothing just if `f` changes no element. -/
private theorem map_eq_self_iff {α : Type} {f : α → α} {l : List α} :
    l.map f = l ↔ ∀ a ∈ l, f a = a := by
  have h := List.map_inj_left (f := f) (g := id) (l := l)
  rwa [List.map_id] at h

/-- `Filter.eraseDups` changes nothing just if no item of a list is repeated. -/
private theorem Filter.eraseDups_eq_self_iff {f : Filter} : f.eraseDups = f ↔ f.DistinctItems := by
  obtain ⟨name, settings⟩ := f
  have hsetting : ∀ s : Setting, s.eraseDups = s ↔ s.value.DistinctItems := by
    rintro ⟨key, value⟩
    rw [Setting.eraseDups, Setting.mk.injEq, SettingValue.eraseDups_eq_self_iff]
    exact and_iff_right rfl
  rw [eraseDups, Filter.mk.injEq, map_eq_self_iff]
  simp only [true_and, hsetting]
  rfl

/-- `Catalog.eraseDups` changes nothing just if no item of a list is repeated. -/
private theorem Catalog.eraseDups_eq_self_iff {c : Catalog} :
    c.eraseDups = c ↔ c.DistinctItems := by
  obtain ⟨filters⟩ := c
  rw [eraseDups, Catalog.mk.injEq, map_eq_self_iff]
  simp only [Filter.eraseDups_eq_self_iff]
  rfl

/-! ## Reading back what was stored -/

/-- `SettingKey.ofJson?` reads a key back from its name. -/
private theorem SettingKey.ofJson?_name (k : SettingKey) : ofJson? (.text k.name) = some k := by
  cases k <;> decide

/-- `SettingValue.ofJson?` reads a value back, a text as a text and a list as a list. -/
theorem SettingValue.ofJson?_toJson (v : SettingValue) : ofJson? v.toJson = some v := by
  cases v with
  | scalar t => rfl
  | list ts =>
    have h : (Json.texts ts).asTexts?.map list = some (list ts) := by
      rw [Json.asTexts?_texts, Option.map_some]
    exact h

/-- `Setting.ofJson?` reads a setting back from its two members. -/
theorem Setting.ofJson?_toJson (s : Setting) : ofJson? s.toJson = some s := by
  have hkey : Json.exactlyOne? "key" [("key".toList, .text s.key.name),
      ("value".toList, s.value.toJson)] = some (.text s.key.name) := rfl
  have hvalue : Json.exactlyOne? "value" [("key".toList, .text s.key.name),
      ("value".toList, s.value.toJson)] = some s.value.toJson := rfl
  rw [toJson, Json.fields, ofJson?, Json.namedMembers?_fields]
  simp only [Option.bind_eq_bind, Option.bind_some, hkey, hvalue, SettingKey.ofJson?_name,
    SettingValue.ofJson?_toJson, Option.pure_def]

/-- `Filter.ofSettings` puts settings under their keys, one after the other. -/
private theorem Filter.ofSettings_eq (name : Text) (settings : List Setting) :
    ofSettings name settings =
      ⟨name, Keyed.putAll Setting.key [] (settings.map Setting.eraseDups)⟩ := by
  have h : ∀ f : Filter, settings.foldl (fun f s => f.set s.key s.value.distinct) f =
      ⟨f.name, Keyed.putAll Setting.key f.settings (settings.map Setting.eraseDups)⟩ := by
    induction settings with
    | nil => exact fun _ => rfl
    | cons s settings ih =>
      intro f
      rw [List.foldl_cons, ih, List.map_cons, Keyed.putAll_cons,
        SettingValue.distinct_eq_eraseDups]
      rfl
  exact h (new name)

private theorem Setting.map_key_eraseDups (settings : List Setting) :
    (settings.map eraseDups).map key = settings.map key := by
  rw [List.map_map]
  rfl

/-- `Filter.ofJson?` reads a filter with distinct keys back, its repeated items erased. -/
theorem Filter.ofJson?_toJson {f : Filter} (h : f.DistinctKeys) :
    ofJson? f.toJson = some f.eraseDups := by
  have hname : Json.exactlyOne? "name" [("name".toList, .text f.name),
      ("settings".toList, .array (f.settings.map Setting.toJson))] = some (.text f.name) := rfl
  have hsettings : Json.atMostOne? "settings" [("name".toList, .text f.name),
      ("settings".toList, .array (f.settings.map Setting.toJson))] =
        some (some (.array (f.settings.map Setting.toJson))) := rfl
  have hread : settingsOfJson? (.array (f.settings.map Setting.toJson)) = some f.settings := by
    rw [settingsOfJson?, Json.asArray?, Option.bind_eq_bind, Option.bind_some,
      mapM_map_self Setting.ofJson?_toJson]
  -- Erasing items leaves the keys distinct, so each setting is put at the end.
  have hput : Keyed.putAll Setting.key [] (f.settings.map Setting.eraseDups) =
      f.settings.map Setting.eraseDups := by
    apply Keyed.putAll_nil
    rw [Setting.map_key_eraseDups]
    exact h
  rw [toJson, Json.fields, ofJson?, Json.namedMembers?_fields]
  simp only [Option.bind_eq_bind, Option.bind_some, hname, hsettings, hread,
    Json.asText?_text, Option.pure_def, ofSettings_eq, hput]
  rfl

/-- `Catalog.ofJson?` reads a catalog with distinct names and keys back, its repeated items erased.
    -/
theorem Catalog.ofJson?_toJson {c : Catalog} (h : c.DistinctKeys) :
    ofJson? c.toJson = some c.eraseDups := by
  have hread := mapM_map_of_forall fun f hf => Filter.ofJson?_toJson (h.filters f hf)
  -- The names are those of the filters, so each filter is put at the end.
  have hput : Keyed.putAll Filter.name [] (c.filters.map Filter.eraseDups) =
      c.filters.map Filter.eraseDups := by
    apply Keyed.putAll_nil
    rw [List.map_map]
    exact h.names
  rw [toJson, ofJson?, Json.asArray?, Option.bind_eq_bind, Option.bind_some, hread,
    Option.bind_eq_bind, Option.bind_some, ofList, insertAll, empty, hput]
  rfl

/-- `Catalog.toJson` has no numbers. -/
private theorem Catalog.numberFree_toJson (c : Catalog) : c.toJson.NumberFree := by
  -- From the inside out: values, settings, filters.
  have hvalue : ∀ v : SettingValue, v.toJson.NumberFree := by
    intro v
    cases v with
    | scalar t => exact .string _
    | list ts => exact .array_map fun t _ => .string _
  have hsetting : ∀ s : Setting, s.toJson.NumberFree := by
    intro s
    refine .fields fun m hm => ?_
    simp only [List.mem_cons, List.not_mem_nil, or_false] at hm
    rcases hm with rfl | rfl
    · exact .string _
    · exact hvalue s.value
  refine .array_map fun f _ => .fields fun m hm => ?_
  simp only [List.mem_cons, List.not_mem_nil, or_false] at hm
  rcases hm with rfl | rfl
  · exact .string _
  · exact .array_map fun s _ => hsetting s

/-- `Catalog.ofStored?` reads a catalog with distinct names and keys back from what it is stored as,
    its repeated items erased. -/
theorem Catalog.ofStored?_stored {c : Catalog} (h : c.DistinctKeys) :
    ofStored? c.stored = some c.eraseDups := by
  rw [ofStored?, stored, Json.read?_compact c.numberFree_toJson, Option.bind_some,
    ofJson?_toJson h]

/-- `Catalog.ofStored?` reads a catalog back as it was just if no item of its lists is repeated. -/
theorem Catalog.ofStored?_stored_iff {c : Catalog} (h : c.DistinctKeys) :
    ofStored? c.stored = some c ↔ c.DistinctItems := by
  rw [ofStored?_stored h, Option.some.injEq, eraseDups_eq_self_iff]

/-! ## What a stored text can hold -/

/-- A filter that `Filter.ofSettings` built has each key once. -/
private theorem Filter.distinctKeys_ofSettings (name : Text) (settings : List Setting) :
    (ofSettings name settings).DistinctKeys := by
  rw [ofSettings_eq]
  exact Keyed.nodup_map_putAll_nil _

/-- A filter that `Filter.ofSettings` built has no repeated items. -/
private theorem Filter.distinctItems_ofSettings (name : Text) (settings : List Setting) :
    (ofSettings name settings).DistinctItems := by
  rw [ofSettings_eq]
  intro s hs
  -- Each setting of the filter has been put there.
  rcases Keyed.mem_putAll hs with h | h
  · obtain ⟨s, -, rfl⟩ := List.mem_map.mp h
    exact s.value.distinctItems_eraseDups
  · cases h

/-- A filter that `Filter.ofJson?` read has been built by `Filter.ofSettings`. -/
theorem Filter.exists_ofSettings_of_ofJson? {j : Json} {f : Filter} (h : ofJson? j = some f) :
    ∃ name settings, f = ofSettings name settings := by
  -- An object, an array of a name alone, and an array of a name and settings can be read.
  rw [ofJson?.eq_def] at h
  split at h
  · obtain ⟨ms, -, h⟩ := Option.bind_eq_some_iff.mp h
    obtain ⟨jname, -, h⟩ := Option.bind_eq_some_iff.mp h
    obtain ⟨name, -, h⟩ := Option.bind_eq_some_iff.mp h
    obtain ⟨jsettings, -, h⟩ := Option.bind_eq_some_iff.mp h
    cases jsettings with
    | none =>
      cases h
      exact ⟨name, [], rfl⟩
    | some j =>
      obtain ⟨settings, -, h⟩ := Option.bind_eq_some_iff.mp h
      cases h
      exact ⟨name, settings, rfl⟩
  · obtain ⟨name, -, h⟩ := Option.bind_eq_some_iff.mp h
    cases h
    exact ⟨name, [], rfl⟩
  · obtain ⟨name, -, h⟩ := Option.bind_eq_some_iff.mp h
    obtain ⟨settings, -, h⟩ := Option.bind_eq_some_iff.mp h
    cases h
    exact ⟨name, settings, rfl⟩
  · cases h

/-- A catalog that `Catalog.ofStored?` read from a stored text has each name and key once, and no
    repeated items. -/
theorem Catalog.distinct_of_ofStored? {t : Text} {c : Catalog} (h : ofStored? t = some c) :
    c.DistinctKeys ∧ c.DistinctItems := by
  -- Whatever document was read, its filters have been read from its items and then put together.
  obtain ⟨j, -, h⟩ := Option.bind_eq_some_iff.mp h
  obtain ⟨js, -, h⟩ := Option.bind_eq_some_iff.mp h
  obtain ⟨fs, hfs, h⟩ := Option.bind_eq_some_iff.mp h
  cases h
  have hbuilt : ∀ f ∈ (ofList fs).filters,
      ∃ name settings, f = Filter.ofSettings name settings := by
    intro f hf
    rcases Keyed.mem_putAll hf with hf | hf
    · obtain ⟨j, -, hj⟩ := exists_of_mem_mapM hfs hf
      exact Filter.exists_ofSettings_of_ofJson? hj
    · cases hf
  refine ⟨⟨Keyed.nodup_map_putAll_nil fs, fun f hf => ?_⟩, fun f hf => ?_⟩
  · obtain ⟨name, settings, rfl⟩ := hbuilt f hf
    exact Filter.distinctKeys_ofSettings name settings
  · obtain ⟨name, settings, rfl⟩ := hbuilt f hf
    exact Filter.distinctItems_ofSettings name settings

end Facets
