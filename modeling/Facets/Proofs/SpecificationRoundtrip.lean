import Facets.Proofs.CatalogWellFormed
import Facets.Proofs.Segmentation
import Mathlib.Tactic.TFAE

/-!
# Specifications and the catalogs they write

A well-formed catalog is read back from its display, and so the well-formed catalogs are exactly
those that some specification writes.

The display is put together from the inside out: the settings of a filter are displayed as a text
with their tokens (`Setting.ofSettings_display`), these tokens set each key to its value again
(`Filter.foldlM_tokens`), so the display of the filter writes it (`Filter.writtenBy_display`), and
the display of a catalog consists of such texts.
-/

namespace Facets

/-! ## Tokens of a setting -/

/-- The tokens that the display of a setting is read as. -/
def Setting.tokens : Setting → List Token
  | ⟨k, .scalar t⟩ => [.keyed k.name t]
  | ⟨k, .list []⟩ => [.keyed k.name []]
  | ⟨k, .list (t :: ts)⟩ => .keyed k.name t :: ts.map .bare

/-- A `SettingKey.name` is free of the characters that divide settings, and stands for its key. -/
theorem SettingKey.name_spec (k : SettingKey) :
    ('=' ∉ k.name ∧ ',' ∉ k.name ∧ ')' ∉ k.name) ∧ Text.trimBlank k.name = k.name ∧
      SettingKey.parse k.name = .ok k := by
  cases k <;> decide

/-- `Token.ofText` reads a key before `=` and an item after it as a keyed token. -/
private theorem Token.ofText_keyed (k : SettingKey) {t : Text} (h : t.IsItem) :
    ofText (k.name ++ '=' :: t) = .keyed k.name t := by
  obtain ⟨⟨hequals, -, -⟩, htrim, -⟩ := k.name_spec
  rw [ofText, Text.cut?_append hequals]
  simp only [htrim, h.trimmed]

/-- `Token.ofText` reads an item without `=` as a bare token. -/
private theorem Token.ofText_bare {t : Text} (h : t.IsItem) (hequals : '=' ∉ t) :
    ofText t = .bare t := by
  rw [ofText, Text.cut?_eq_none_iff.mpr hequals]
  simp only [h.trimmed]

/-- A setting whose value `IsItem` is displayed without a comma. -/
private theorem SettingKey.comma_not_mem_keyed (k : SettingKey) {t : Text} (h : t.IsItem) :
    ',' ∉ k.name ++ '=' :: t := by
  obtain ⟨⟨-, hcomma, -⟩, -, -⟩ := k.name_spec
  simp [hcomma, h.comma_not_mem]

/-- `Setting.display` has the tokens of the setting. -/
theorem Setting.ofSettings_display {s : Setting} (h : s.WellFormed) :
    Token.ofSettings s.display = s.tokens := by
  cases h with
  | @scalar k t _ item =>
    rw [display, SettingValue.display, Token.ofSettings,
      Text.pieces_of_not_mem (k.comma_not_mem_keyed item)]
    simp [tokens, Token.ofText_keyed k item]
  | @list ts _ items equals_not_mem =>
    cases ts with
    | nil => decide
    | cons t ts =>
      have ht := (items t List.mem_cons_self).2
      have hts : ∀ u ∈ ts, u.IsItem := fun u hu => (items u (List.mem_cons_of_mem t hu)).2
      -- The key and the first item are one part of the display, each other item is a part.
      have hjoin : display ⟨.requires, .list (t :: ts)⟩ =
          Text.join [','] ((SettingKey.requires.name ++ '=' :: t) :: ts) := by
        cases ts with
        | nil => simp [display, SettingValue.display]
        | cons u us => simp [display, SettingValue.display, Text.join_cons_cons]
      have hcomma : ∀ p ∈ (SettingKey.requires.name ++ '=' :: t) :: ts, ',' ∉ p := by
        intro p hp
        rcases List.mem_cons.mp hp with rfl | hp
        · exact SettingKey.requires.comma_not_mem_keyed ht
        · exact (hts p hp).comma_not_mem
      have hbare : ts.map Token.ofText = ts.map .bare :=
        List.map_congr_left fun u hu => Token.ofText_bare (hts u hu) (equals_not_mem u hu)
      rw [hjoin, Token.ofSettings, Text.pieces_join_of_not_mem (List.cons_ne_nil _ _) hcomma,
        List.map_cons, Token.ofText_keyed _ ht, hbare, tokens]

/-- No `)` is in a `Setting.display`. -/
private theorem Setting.close_not_mem_display {s : Setting} (h : s.WellFormed) :
    ')' ∉ s.display := by
  obtain ⟨⟨-, -, hkey⟩, -, -⟩ := s.key.name_spec
  have hvalue : ')' ∉ s.value.display := by
    cases h with
    | scalar _ item => exact item.close_not_mem
    | list _ items _ =>
      exact Text.not_mem_join (by decide) fun t ht => (items t ht).2.close_not_mem
  simp [Setting.display, hkey, hvalue]

/-! ## Reading the tokens -/

namespace Filter

/-- Of two values that `set` gives a key, the second one stays. -/
private theorem set_set (f : Filter) (k : SettingKey) (v v' : SettingValue) :
    (f.set k v).set k v' = f.set k v' := by
  have hput := @Keyed.put_put _ _ _ Setting.key ⟨k, v⟩ ⟨k, v'⟩ rfl f.settings
  rw [set, set, hput, set]

/-- After `requires` was set to a list, `Draft.add` adds new items to it that are all different. -/
private theorem foldlM_bare (f : Filter) (xs : List Text) {ts : List Text}
    (hnodup : (xs ++ ts).Nodup)
    (hne : ∀ t ∈ ts, t ≠ []) :
    (ts.map Token.bare).foldlM Draft.add ⟨f.set .requires (.list xs), true⟩ =
      .ok ⟨f.set .requires (.list (xs ++ ts)), true⟩ := by
  -- The induction carries the items that have been added so far.
  induction ts generalizing xs with
  | nil => simp [pure, Except.pure]
  | cons t ts ih =>
    have ht : t ∉ xs := fun hm => (List.nodup_append.mp hnodup).2.2 t hm t List.mem_cons_self rfl
    have hpush : (f.set .requires (.list xs)).pushRequirement t =
        f.set .requires (.list (xs ++ [t])) := by
      have hreq : (f.set .requires (.list xs)).requires = xs := by
        rw [requires, get?_set, if_pos rfl]
        rfl
      rw [pushRequirement_eq, hreq, set_set, addNew, if_neg ht]
    have hadd : Draft.add ⟨f.set .requires (.list xs), true⟩ (.bare t) =
        .ok ⟨f.set .requires (.list (xs ++ [t])), true⟩ := by
      rw [Draft.add, if_pos ⟨hne t List.mem_cons_self, rfl⟩, hpush]
    have hrest := ih (xs ++ [t]) (by simpa using hnodup)
      fun u hu => hne u (List.mem_cons_of_mem t hu)
    rw [List.append_assoc] at hrest
    rw [List.map_cons, List.foldlM_cons, hadd]
    exact hrest

/-- The tokens of a setting make `Draft.add` set its key to its value. -/
private theorem foldlM_tokens_setting {s : Setting} (h : s.WellFormed) (d : Draft) :
    s.tokens.foldlM Draft.add d = .ok ⟨d.filter.set s.key s.value, s.key = .requires⟩ := by
  -- A keyed token sets its key to what the key makes of its text.
  have hkeyed : ∀ (k : SettingKey) (t : Text), Draft.add d (.keyed k.name t) =
      .ok ⟨d.filter.set k (k.readValue t), k = .requires⟩ := by
    intro k t
    rw [Draft.add, (k.name_spec).2.2]
    rfl
  cases h with
  | @scalar k t key_ne item =>
    rw [Setting.tokens, List.foldlM_cons, hkeyed, SettingKey.readValue_of_ne key_ne]
    rfl
  | @list ts nodup items _ =>
    cases ts with
    | nil =>
      rw [Setting.tokens, List.foldlM_cons, hkeyed]
      rfl
    | cons t ts =>
      -- The first item comes with the key, and the others are added to it.
      obtain ⟨hne, item⟩ := items t List.mem_cons_self
      rw [Setting.tokens, List.foldlM_cons, hkeyed, SettingKey.readValue_requires,
        listItems_of_isItem item, if_neg hne]
      exact foldlM_bare d.filter [t] nodup
        fun u hu => (items u (List.mem_cons_of_mem t hu)).1

/-- The tokens of settings make `Draft.add` put them one after the other. -/
theorem foldlM_tokens {settings : List Setting} (h : ∀ s ∈ settings, s.WellFormed) (d : Draft) :
    ∃ inRequires, (settings.flatMap Setting.tokens).foldlM Draft.add d =
      .ok ⟨⟨d.filter.name, Keyed.putAll Setting.key d.filter.settings settings⟩, inRequires⟩ := by
  induction settings generalizing d with
  | nil => exact ⟨d.inRequires, rfl⟩
  | cons s settings ih =>
    rw [List.flatMap_cons, List.foldlM_append, foldlM_tokens_setting (h s List.mem_cons_self)]
    exact ih (fun s' hs' => h s' (List.mem_cons_of_mem s hs')) _

/-- The settings of a filter as its display writes them. -/
def displaySettings (f : Filter) : Text := Text.join [','] (f.settings.map Setting.display)

/-- `displaySettings` has the tokens of each setting in turn, or an empty one alone. -/
private theorem ofSettings_displaySettings {f : Filter} (h : ∀ s ∈ f.settings, s.WellFormed) :
    Token.ofSettings f.displaySettings =
      if f.settings = [] then [.bare []] else f.settings.flatMap Setting.tokens := by
  split
  · -- What is empty is still one piece.
    rename_i hnil
    rw [displaySettings, hnil]
    decide
  · rename_i hne
    rw [displaySettings, Token.ofSettings, Text.pieces_join ',' (by simpa using hne),
      List.map_flatMap, List.flatMap_map]
    exact List.flatMap_congr fun s hs => Setting.ofSettings_display (h s hs)

/-- `Filter.parse` reads a filter with well-formed settings back from its `displaySettings`. -/
theorem parse_displaySettings {f : Filter} (h : f.SettingsWellFormed) :
    parse f.name f.displaySettings = .ok f := by
  obtain ⟨name, settings⟩ := f
  rw [parse, ofSettings_displaySettings h.settings]
  split
  · rename_i hnil
    subst hnil
    rfl
  · -- The keys are distinct, so putting the settings one by one builds them as they are.
    obtain ⟨b, hfold⟩ := foldlM_tokens h.settings ⟨new name, false⟩
    rw [hfold]
    simp only [new, Keyed.putAll_nil h.nodup_keys]
    rfl

/-- No `)` is in `displaySettings`. -/
theorem close_not_mem_displaySettings {f : Filter} (h : ∀ s ∈ f.settings, s.WellFormed) :
    ')' ∉ f.displaySettings := by
  refine Text.not_mem_join (by decide) fun t ht => ?_
  obtain ⟨s, hs, rfl⟩ := List.mem_map.mp ht
  exact Setting.close_not_mem_display (h s hs)

end Filter

/-! ## Texts that write filters -/

/-- A text that inserts a filter into what was read in front of it, whatever stands after it. -/
def Filter.WrittenBy (f : Filter) (text : Text) : Prop :=
  ∀ (c : Catalog) (rest : Text),
    c.addSpecification (text ++ rest) = (c.insert f).addSpecification rest

/-- A filter is `WrittenBy` settings that are read as its own, after its name, padded or not. -/
theorem Filter.WellFormed.writtenBy {f : Filter} (h : f.WellFormed) {name settings : Text}
    (hname : Text.Padded Text.isNamePadding f.name name) (hclose : ')' ∉ settings)
    (hparse : Filter.parse f.name settings = .ok f) :
    f.WrittenBy (name ++ '(' :: settings ++ [')']) := by
  intro c rest
  -- Padding brings in no parenthesis, so the group is found as it was written.
  have hparen : ∀ x ∈ name, Scanner.isParen x = false := by
    intro x hx
    rw [Scanner.isParen_eq_false]
    constructor
    · rintro rfl
      exact hname.not_mem (by decide) h.open_not_mem_name hx
    · rintro rfl
      exact hname.not_mem (by decide) h.close_not_mem_name hx
  have htrim : Text.trimName name = f.name := hname.trim_eq.trans h.name_trimmed
  have hadd : c.addSegment ⟨name, settings, 0⟩ = .ok (c.insert f) := by
    rw [Catalog.addSegment, htrim, hparse]
    simp [h.name_ne_nil, bind, Except.bind, pure, Except.pure]
  have htext : name ++ '(' :: settings ++ [')'] ++ rest =
      name ++ '(' :: (settings ++ ')' :: rest) := by simp
  rw [htext, c.addSpecification_group hparen hclose, hadd]
  rfl

/-- A well-formed filter is `WrittenBy` its display. -/
theorem Filter.writtenBy_display {f : Filter} (h : f.WellFormed) : f.WrittenBy f.display :=
  h.writtenBy (.refl _ f.name) (close_not_mem_displaySettings h.settings)
    (parse_displaySettings h.toSettingsWellFormed)

/-! ## Catalogs -/

namespace Catalog

/-- `addSpecification` inserts the filters of texts with commas in front, one after the other. -/
private theorem addSpecification_writtenBy {fs : List Filter} {texts : List Text}
    (h : List.Forall₂ Filter.WrittenBy fs texts) (c : Catalog) (rest : Text) :
    c.addSpecification ((texts.flatMap fun text => ", ".toList ++ text) ++ rest) =
      (c.insertAll fs).addSpecification rest := by
  have hpad : ∀ x ∈ ", ".toList, Text.isNamePadding x = true := List.all_eq_true.mp (by decide)
  induction h generalizing c with
  | nil => rfl
  | cons hwritten _ ih =>
    -- The comma and the blank are padding in front of the name.
    rw [List.flatMap_cons, List.append_assoc, List.append_assoc, addSpecification_padding c hpad,
      hwritten]
    exact ih (c.insert _)

/-- `parse` reads filters of different names from texts that write them, with padding after the last
    one or not. -/
theorem parse_join_of_writtenBy {c : Catalog} (hnodup : c.names.Nodup) {texts : List Text}
    (h : List.Forall₂ Filter.WrittenBy c.filters texts) {pad : Text}
    (hpad : ∀ x ∈ pad, Text.isNamePadding x = true) :
    parse (Text.join ", ".toList texts ++ pad) = .ok c := by
  obtain ⟨filters⟩ := c
  have hall : empty.insertAll filters = ⟨filters⟩ := by
    rw [insertAll, empty, Keyed.putAll_nil hnodup]
  have hclose : ')' ∉ pad := fun hm => absurd (hpad _ hm) (by decide)
  have hend : ∀ c : Catalog, c.addSpecification pad = .ok c := fun c =>
    c.addSpecification_of_close_not_mem hclose
  rw [← addSpecification_empty]
  cases h with
  | nil => exact hend empty
  | cons hwritten hrest =>
    -- The first text stands at the start, without a comma in front.
    rw [Text.join_cons, List.append_assoc, hwritten, addSpecification_writtenBy hrest, hend]
    exact congrArg Except.ok hall

/-- `parse` reads a well-formed catalog back from its `display`. -/
theorem parse_display {c : Catalog} (h : c.WellFormed) : parse c.display = .ok c := by
  have hwritten : List.Forall₂ Filter.WrittenBy c.filters (c.filters.map Filter.display) :=
    List.forall₂_map_right_iff.mpr
      (List.forall₂_same.mpr fun f hf => Filter.writtenBy_display (h.filters f hf))
  have hparse := parse_join_of_writtenBy h.nodup_names hwritten (List.forall_mem_nil _)
  rwa [List.append_nil] at hparse

/-- The catalogs that some specification writes, those that are read back from their `display`, and
    the well-formed ones are the same. -/
theorem parse_display_tfae (c : Catalog) :
    [∃ t, parse t = .ok c, parse c.display = .ok c, c.WellFormed].TFAE := by
  tfae_have 1 → 3 := fun ⟨t, h⟩ => wellFormed_of_parse h
  tfae_have 3 → 2 := parse_display
  tfae_have 2 → 1 := fun h => ⟨c.display, h⟩
  tfae_finish

end Catalog

end Facets
