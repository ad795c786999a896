import Facets.Filter.Specification
import Facets.Proofs.ExceptLemmas
import Facets.Proofs.KeyedLemmas
import Facets.Proofs.ScannerGroups
import Facets.Proofs.TextLemmas

/-!
# Well-formed catalogs

A catalog can hold anything: names with parentheses, values with commas, lists under any key.
`Catalog.WellFormed` singles out those that a specification can write, and
`Catalog.wellFormed_of_parse` proves that a specification writes no others.

The invariant is carried through both folds of the reader.  Each token leaves the settings of a
draft well formed (`Filter.Draft.wellFormed_add`), so a filter has well-formed settings once it is
read, and each segment leaves the catalog well formed (`Catalog.wellFormed_addSegment`).
-/

namespace Facets

/-! ## What a specification can write -/

/-- A text that stands for itself between two commas of some settings: `Text.trimBlank` leaves it,
    and it holds neither a comma nor a `)`. -/
structure Text.IsItem (t : Text) : Prop where
  trimmed : trimBlank t = t
  comma_not_mem : ',' ∉ t
  close_not_mem : ')' ∉ t

/-- A setting that a specification can write.  An item of a list that contained `=` would be read as
    a setting of its own, unless it is the first one, which follows the `=` of the key. -/
inductive Setting.WellFormed : Setting → Prop
  | scalar {k : SettingKey} {t : Text} (key_ne : k ≠ .requires) (item : t.IsItem) :
      WellFormed ⟨k, .scalar t⟩
  | list {ts : List Text} (nodup : ts.Nodup) (items : ∀ t ∈ ts, t ≠ [] ∧ t.IsItem)
      (equals_not_mem : ∀ t ∈ ts.tail, '=' ∉ t) : WellFormed ⟨.requires, .list ts⟩

/-- Settings that a specification can write: each is `Setting.WellFormed`, and no key stands twice.
    -/
structure Filter.SettingsWellFormed (f : Filter) : Prop where
  nodup_keys : (f.settings.map Setting.key).Nodup
  settings : ∀ s ∈ f.settings, s.WellFormed

/-- A filter that a specification can write, name and settings. -/
structure Filter.WellFormed (f : Filter) : Prop extends f.SettingsWellFormed where
  name_ne_nil : f.name ≠ []
  name_trimmed : Text.trimName f.name = f.name
  open_not_mem_name : '(' ∉ f.name
  close_not_mem_name : ')' ∉ f.name

/-- A catalog that a specification can write: its filters are `Filter.WellFormed`, and no name
    stands twice. -/
structure Catalog.WellFormed (c : Catalog) : Prop where
  nodup_names : c.names.Nodup
  filters : ∀ f ∈ c.filters, f.WellFormed

/-! ## Tokens -/

/-- A token of settings that are closed by the first `)`. -/
inductive Token.WellFormed : Token → Prop
  | keyed {key value : Text} (item : value.IsItem) : WellFormed (.keyed key value)
  | bare {t : Text} (item : t.IsItem) (equals_not_mem : '=' ∉ t) : WellFormed (.bare t)

/-- A part of a text without commas and `)` is an item once `Text.trimBlank` has trimmed it. -/
private theorem isItem_trimBlank {t u : Text} (hcomma : ',' ∉ t) (hclose : ')' ∉ t)
    (hu : ∀ c ∈ u, c ∈ t) : (Text.trimBlank u).IsItem where
  trimmed := Text.trim_trim _ u
  comma_not_mem h := hcomma (hu _ (Text.mem_of_mem_trim h))
  close_not_mem h := hclose (hu _ (Text.mem_of_mem_trim h))

/-- `Token.ofText` gives a well-formed token for what stands between two commas of settings without
    `)`. -/
private theorem Token.wellFormed_ofText {t : Text} (hcomma : ',' ∉ t) (hclose : ')' ∉ t) :
    (ofText t).WellFormed := by
  rw [ofText]
  split
  · rename_i key value hcut
    obtain ⟨rfl, -⟩ := Text.append_of_cut? hcut
    exact .keyed (isItem_trimBlank hcomma hclose fun c hc => by simp [hc])
  · rename_i hcut
    rw [Text.cut?_eq_none_iff] at hcut
    exact .bare (isItem_trimBlank hcomma hclose fun c hc => hc)
      fun h => hcut (Text.mem_of_mem_trim h)

/-- All tokens that `Token.ofSettings` gives for settings without `)` are well formed. -/
private theorem Token.wellFormed_of_mem_ofSettings {settings : Text} (hclose : ')' ∉ settings)
    {token : Token} (h : token ∈ ofSettings settings) : token.WellFormed := by
  obtain ⟨p, hp, rfl⟩ := List.mem_map.mp h
  exact wellFormed_ofText (Text.not_mem_of_mem_pieces hp)
    fun hc => hclose (Text.mem_of_mem_pieces hp hc)

/-! ## Settings -/

/-- `listItems` of a text without commas has one item, the trimmed text, unless it is blank. -/
theorem listItems_of_comma_not_mem {t : Text} (h : ',' ∉ t) :
    listItems t = if Text.trimBlank t = [] then [] else [Text.trimBlank t] := by
  rw [listItems, Text.pieces_of_not_mem h, List.map_singleton]
  split
  · simp [*, distinct]
  · simp [*, distinct, addNew]

/-- `listItems` of an item is the item, unless it is empty. -/
theorem listItems_of_isItem {t : Text} (h : t.IsItem) :
    listItems t = if t = [] then [] else [t] := by
  rw [listItems_of_comma_not_mem h.comma_not_mem, h.trimmed]

/-- `requires` reads its value as a list. -/
theorem SettingKey.readValue_requires (t : Text) :
    SettingKey.requires.readValue t = .list (listItems t) := rfl

/-- Each key but `requires` takes its value as it stands. -/
theorem SettingKey.readValue_of_ne {k : SettingKey} (h : k ≠ .requires) (t : Text) :
    k.readValue t = .scalar t := by
  rw [readValue, if_neg (by simpa [holdsList] using h)]

/-- What `SettingKey.readValue` makes of an item is well formed under its key. -/
private theorem SettingKey.wellFormed_readValue (k : SettingKey) {t : Text} (h : t.IsItem) :
    (Setting.mk k (k.readValue t)).WellFormed := by
  -- Only `requires` makes a list of the item.
  by_cases hk : k = .requires
  · rw [hk, readValue_requires, listItems_of_isItem h]
    split
    · exact .list List.nodup_nil (by simp) (by simp)
    · rename_i ht
      exact .list (List.nodup_singleton t) (by simpa using ⟨ht, h⟩) (by simp)
  · rw [readValue_of_ne hk]
    exact .scalar hk h

namespace Filter

/-- `Filter.set` with a well-formed value leaves the settings well formed. -/
theorem SettingsWellFormed.set {f : Filter} (h : f.SettingsWellFormed) {k : SettingKey}
    {v : SettingValue} (hv : (Setting.mk k v).WellFormed) : (f.set k v).SettingsWellFormed where
  nodup_keys := Keyed.nodup_map_put h.nodup_keys ⟨k, v⟩
  settings s hs := by
    rcases Keyed.mem_put hs with rfl | hs
    · exact hv
    · exact h.settings s hs

/-- The requirements of well-formed settings can be written as a list, also when there are none. -/
theorem SettingsWellFormed.requires {f : Filter} (h : f.SettingsWellFormed) :
    (Setting.mk .requires (.list f.requires)).WellFormed := by
  rw [Filter.requires, get?, Option.map_map]
  cases hget : Keyed.get? Setting.key .requires f.settings with
  | none => exact .list List.nodup_nil (by simp) (by simp)
  | some s =>
    -- Under this key stands a list, since a scalar would not be well formed.
    have hkey : s.key = .requires := by simpa using List.find?_some hget
    cases h.settings s (List.mem_of_find?_eq_some hget) with
    | scalar key_ne _ => exact absurd hkey key_ne
    | list nodup items equals_not_mem => exact .list nodup items equals_not_mem

/-- `pushRequirement` with an item without `=` leaves the settings well formed. -/
private theorem SettingsWellFormed.pushRequirement {f : Filter} (h : f.SettingsWellFormed)
    {t : Text} (ht : t ≠ []) (item : t.IsItem) (hequals : '=' ∉ t) :
    (f.pushRequirement t).SettingsWellFormed := by
  rw [pushRequirement_eq]
  refine h.set ?_
  -- The item comes behind those there are, which can be written already.
  cases h.requires with
  | list nodup items equals_not_mem =>
    refine .list (nodup_addNew nodup t) (fun u hu => ?_) (fun u hu => ?_)
    · rcases mem_addNew.mp hu with hu | rfl
      · exact items u hu
      · exact ⟨ht, item⟩
    · rw [addNew] at hu
      split at hu
      · exact equals_not_mem u hu
      · -- The new item comes last, so it is in the tail or it is the only one.
        cases hreq : f.requires with
        | nil => simp [hreq] at hu
        | cons r rs =>
          rw [hreq] at hu equals_not_mem
          rcases List.mem_append.mp hu with hu | hu
          · exact equals_not_mem u hu
          · rwa [List.mem_singleton.mp hu]

/-- `Draft.add` with a well-formed token leaves the settings of a draft well formed. -/
theorem Draft.wellFormed_add {d d' : Draft} {token : Token} (htoken : token.WellFormed)
    (h : d.add token = .ok d') (hd : d.filter.SettingsWellFormed) :
    d'.filter.SettingsWellFormed := by
  cases htoken with
  | @keyed key value item =>
    rw [add] at h
    obtain ⟨k, -, h⟩ := exists_ok_of_bind_eq_ok h
    cases h
    exact hd.set (k.wellFormed_readValue item)
  | @bare t item hequals =>
    rw [add] at h
    split at h
    · -- A requirement is added.
      rename_i hpush
      cases h
      exact hd.pushRequirement hpush.1 item hequals
    · cases h
      exact hd

/-- `Draft.add` never changes the name of a draft. -/
private theorem Draft.name_add {d d' : Draft} {token : Token} (h : d.add token = .ok d') :
    d'.filter.name = d.filter.name := by
  cases token with
  | keyed key value =>
    rw [add] at h
    obtain ⟨k, -, h⟩ := exists_ok_of_bind_eq_ok h
    cases h
    rfl
  | bare t =>
    rw [add] at h
    split at h <;> cases h
    · exact d.filter.name_pushRequirement t
    · rfl

/-- `Filter.parse` gives the filter of the draft that the fold over the tokens comes to. -/
theorem exists_draft_of_parse {name settings : Text} {f : Filter}
    (h : parse name settings = .ok f) :
    ∃ d, (Token.ofSettings settings).foldlM Draft.add ⟨new name, false⟩ = .ok d ∧
      d.filter = f := map_eq_ok_iff.mp h

/-- `Filter.parse` gives a filter of the name that it was given. -/
theorem name_of_parse {name settings : Text} {f : Filter} (h : parse name settings = .ok f) :
    f.name = name := by
  obtain ⟨d, hfold, rfl⟩ := exists_draft_of_parse h
  exact foldlM_invariant (P := fun d => d.filter.name = name)
    (fun _ _ _ _ hadd hd => (Draft.name_add hadd).trans hd) hfold rfl

/-- `Filter.parse` reads well-formed settings from a text without `)`. -/
theorem wellFormed_of_parse {name settings : Text} {f : Filter} (hclose : ')' ∉ settings)
    (h : parse name settings = .ok f) : f.SettingsWellFormed := by
  obtain ⟨d, hfold, rfl⟩ := exists_draft_of_parse h
  -- The invariant of the fold is what is to be proved of the draft that it ends with.
  refine foldlM_invariant (P := fun d => d.filter.SettingsWellFormed)
    (fun d token d' hmem hadd hd => ?_) hfold ⟨List.nodup_nil, by simp [new]⟩
  exact Draft.wellFormed_add (Token.wellFormed_of_mem_ofSettings hclose hmem) hadd hd

end Filter

/-! ## Catalogs -/

namespace Catalog

/-- `addSegment` leaves a catalog well formed, if the segment is one that the scanner finds. -/
theorem wellFormed_addSegment {c c' : Catalog} {g : Segment}
    (hname : ∀ x ∈ g.name, Scanner.isParen x = false) (hclose : ')' ∉ g.settings)
    (h : c.addSegment g = .ok c') (hc : c.WellFormed) : c'.WellFormed := by
  rw [addSegment] at h
  obtain ⟨f, hf, h⟩ := exists_ok_of_bind_eq_ok h
  have hset := Filter.wellFormed_of_parse hclose hf
  have hfname := Filter.name_of_parse hf
  cases h
  split
  · -- The filter has no name and is dropped.
    exact hc
  · rename_i hnil
    -- The scanner keeps parentheses out of names.
    have hparen : ∀ x ∈ f.name, Scanner.isParen x = false := by
      rw [hfname]
      exact fun x hx => hname x (Text.mem_of_mem_trim hx)
    have hwf : f.WellFormed :=
      { hset with
        name_ne_nil := hfname ▸ hnil
        name_trimmed := by rw [hfname]; exact Text.trim_trim _ _
        open_not_mem_name := fun hm => nomatch hparen _ hm
        close_not_mem_name := fun hm => nomatch hparen _ hm }
    refine ⟨?_, fun f' hf' => ?_⟩
    · rw [names_insert]
      exact nodup_addNew hc.nodup_names f.name
    · rcases Keyed.mem_put hf' with rfl | hf'
      · exact hwf
      · exact hc.filters f' hf'

/-- `Catalog.parse` gives well-formed catalogs only. -/
theorem wellFormed_of_parse {t : Text} {c : Catalog} (h : parse t = .ok c) : c.WellFormed := by
  refine foldlM_invariant (P := WellFormed) (fun c g c' hmem hadd hc => ?_) h
    ⟨List.nodup_nil, by simp [empty]⟩
  -- Only segments that the scanner has found are read.
  obtain ⟨hname, hclose⟩ := Scanner.mem_segments hmem
  exact wellFormed_addSegment hname hclose hadd hc

end Catalog

end Facets
