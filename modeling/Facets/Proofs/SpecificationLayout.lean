import Facets.Proofs.Segmentation
import Facets.Proofs.SpecificationRoundtrip

/-!
# Layouts of specifications

A catalog can be laid out more loosely than its display does: with commas and blanks around the
names of filters, with blanks around keys, values and items, and with blank tokens among the
others.  `Catalog.Layout` holds of the texts that come about in this way, and each of them is
read as the catalog (`Catalog.parse_of_layout`).

Most of this has nothing to do with well-formed catalogs.  Laying out the tokens of any settings
leaves what they are read as unchanged (`Filter.parse_join_of_layouts`).  So a layout of a filter
writes it just as its display does (`Filter.writtenBy_of_layout`).
-/

namespace Facets

/-! ## Texts that lay a catalog out -/

/-- A token with blanks around its key and its value, or around all of it if it has no `=`. -/
inductive Token.Layout : Text → Text → Prop
  | keyed {key key' value value' : Text} (equals_not_mem : '=' ∉ key)
      (key_padded : Text.Padded Text.isBlank key key')
      (value_padded : Text.Padded Text.isBlank value value') :
      Layout (key ++ '=' :: value) (key' ++ '=' :: value')
  | bare {t t' : Text} (equals_not_mem : '=' ∉ t) (padded : Text.Padded Text.isBlank t t') :
      Layout t t'

/-- Tokens laid out one by one, with any number of blank ones before, between and after them. -/
inductive Token.Layouts : List Text → List Text → Prop
  | nil : Layouts [] []
  | blank {b : Text} {us us' : List Text} (isBlank : ∀ c ∈ b, Text.isBlank c = true)
      (rest : Layouts us us') : Layouts us (b :: us')
  | token {u u' : Text} {us us' : List Text} (layout : Layout u u') (rest : Layouts us us') :
      Layouts (u :: us) (u' :: us')

/-- A filter with padding around its name, and with the tokens of its settings laid out. -/
inductive Filter.Layout (f : Filter) : Text → Prop
  | mk {name : Text} {tokens : List Text} (name_padded : Text.Padded Text.isNamePadding f.name name)
      (layouts : Token.Layouts (f.displaySettings.pieces ',') tokens) :
      Layout f (name ++ '(' :: Text.join [','] tokens ++ [')'])

/-- A catalog with each filter laid out, and with padding after the last one. -/
inductive Catalog.Layout (c : Catalog) : Text → Prop
  | mk {texts : List Text} {pad : Text} (filters : List.Forall₂ Filter.Layout c.filters texts)
      (isNamePadding : ∀ x ∈ pad, Text.isNamePadding x = true) :
      Layout c (Text.join ", ".toList texts ++ pad)

/-! ## Tokens -/

namespace Token

theorem Layout.refl (u : Text) : Layout u u := by
  cases hcut : u.cut? '=' with
  | none => exact .bare (Text.cut?_eq_none_iff.mp hcut) (.refl _ u)
  | some p =>
    obtain ⟨hu, hkey⟩ := Text.append_of_cut? hcut
    rw [hu]
    exact .keyed hkey (.refl _ p.1) (.refl _ p.2)

theorem Layouts.refl (us : List Text) : Layouts us us := by
  induction us with
  | nil => exact .nil
  | cons u us ih => exact .token (.refl u) ih

/-- `Token.ofText` reads a token that is laid out as before. -/
private theorem ofText_of_layout {u u' : Text} (h : Layout u u') : ofText u' = ofText u := by
  cases h with
  | @keyed key key' value value' hkey key_padded value_padded =>
    -- Blanks bring in no `=`, so the token is cut where it was.
    have hkey' : '=' ∉ key' := key_padded.not_mem (by decide) hkey
    have htrimKey : Text.trimBlank key' = Text.trimBlank key := key_padded.trim_eq
    have htrimValue : Text.trimBlank value' = Text.trimBlank value := value_padded.trim_eq
    rw [ofText, ofText, Text.cut?_append hkey', Text.cut?_append hkey]
    simp only [htrimKey, htrimValue]
  | bare hequals padded =>
    have hequals' : '=' ∉ u' := padded.not_mem (by decide) hequals
    have htrim : Text.trimBlank u' = Text.trimBlank u := padded.trim_eq
    rw [ofText, ofText, Text.cut?_eq_none_iff.mpr hequals', Text.cut?_eq_none_iff.mpr hequals]
    simp only [htrim]

/-- `Token.ofText` reads a blank text as the empty token. -/
private theorem ofText_of_isBlank {b : Text} (h : ∀ c ∈ b, Text.isBlank c = true) :
    ofText b = .bare [] := by
  have hequals : '=' ∉ b := fun hm => nomatch h _ hm
  have htrim : Text.trimBlank b = [] := by
    rw [Text.trimBlank, ← List.append_nil b, Text.trim_append_left h]
    rfl
  rw [ofText, Text.cut?_eq_none_iff.mpr hequals]
  simp only [htrim]

/-- `Layouts` of tokens bring in blanks only. -/
private theorem not_mem_of_layouts {us us' : List Text} (h : Layouts us us') {c : Char}
    (hblank : Text.isBlank c = false) (hus : ∀ u ∈ us, c ∉ u) : ∀ u' ∈ us', c ∉ u' := by
  induction h with
  | nil => exact hus
  | blank isBlank _ ih =>
    refine List.forall_mem_cons.mpr ⟨fun hm => ?_, ih hus⟩
    rw [isBlank c hm] at hblank
    cases hblank
  | token layout _ ih =>
    obtain ⟨hu, hus⟩ := List.forall_mem_cons.mp hus
    refine List.forall_mem_cons.mpr ⟨?_, ih hus⟩
    cases layout with
    | keyed _ key_padded value_padded =>
      rw [List.mem_append, List.mem_cons, not_or, not_or] at hu ⊢
      exact ⟨key_padded.not_mem hblank hu.1, hu.2.1, value_padded.not_mem hblank hu.2.2⟩
    | bare _ padded => exact padded.not_mem hblank hu

end Token

/-! ## Filters -/

namespace Filter

/-- Tokens that are laid out are read by `Draft.add` as before, whatever has been read in front of
    them. -/
private theorem foldlM_of_layouts {us us' : List Text} (h : Token.Layouts us us') (d : Draft) :
    (us'.map Token.ofText).foldlM Draft.add d = (us.map Token.ofText).foldlM Draft.add d := by
  induction h generalizing d with
  | nil => rfl
  | blank isBlank _ ih =>
    -- A blank token leaves a draft as it is, also while requirements are being added.
    have hadd : d.add (.bare []) = .ok d := by
      rw [Draft.add, if_neg (by simp)]
    rw [List.map_cons, Token.ofText_of_isBlank isBlank, List.foldlM_cons, hadd]
    exact ih d
  | token layout _ ih =>
    rw [List.map_cons, List.map_cons, Token.ofText_of_layout layout, List.foldlM_cons,
      List.foldlM_cons]
    simp only [ih]

/-- `Filter.parse` reads settings whose tokens are laid out as before, errors included. -/
theorem parse_join_of_layouts {settings : Text} {tokens : List Text}
    (h : Token.Layouts (settings.pieces ',') tokens) (name : Text) :
    parse name (Text.join [','] tokens) = parse name settings := by
  have hne : tokens ≠ [] := by
    rintro rfl
    cases hp : settings.pieces ',' with
    | nil => exact Text.pieces_ne_nil ',' settings hp
    | cons u us =>
      rw [hp] at h
      cases h
  -- No blank is a comma, so the tokens are divided where they were joined.
  have hcomma : ∀ u ∈ tokens, ',' ∉ u :=
    Token.not_mem_of_layouts h (by decide) fun u hu => Text.not_mem_of_mem_pieces hu
  rw [parse, parse, Token.ofSettings, Token.ofSettings, Text.pieces_join_of_not_mem hne hcomma,
    foldlM_of_layouts h]

/-- A well-formed filter is `WrittenBy` each of its layouts. -/
theorem writtenBy_of_layout {f : Filter} (hf : f.WellFormed) {text : Text} (h : f.Layout text) :
    f.WrittenBy text := by
  cases h with
  | @mk name tokens name_padded layouts =>
    have hclose : ')' ∉ Text.join [','] tokens := by
      have hpieces : ∀ u ∈ f.displaySettings.pieces ',', ')' ∉ u := fun u hu hc =>
        close_not_mem_displaySettings hf.settings (Text.mem_of_mem_pieces hu hc)
      exact Text.not_mem_join (by decide) (Token.not_mem_of_layouts layouts (by decide) hpieces)
    have hparse : parse f.name (Text.join [','] tokens) = .ok f := by
      rw [parse_join_of_layouts layouts, parse_displaySettings hf.toSettingsWellFormed]
    exact hf.writtenBy name_padded hclose hparse

end Filter

/-! ## Catalogs -/

namespace Catalog

/-- `parse` reads a well-formed catalog from each of its layouts. -/
theorem parse_of_layout {c : Catalog} (h : c.WellFormed) {t : Text} (ht : c.Layout t) :
    parse t = .ok c := by
  cases ht with
  | @mk texts pad layouts hpad =>
    have hwritten : List.Forall₂ Filter.WrittenBy c.filters texts := by
      -- Filters and texts are taken in pairs, so that each filter is known to be well formed.
      rw [List.forall₂_iff_zip] at layouts ⊢
      refine ⟨layouts.1, fun hmem => ?_⟩
      exact Filter.writtenBy_of_layout (h.filters _ (List.of_mem_zip hmem).1) (layouts.2 hmem)
    exact parse_join_of_writtenBy h.nodup_names hwritten hpad

/-- The `display` of a catalog is one of its layouts. -/
private theorem layout_display (c : Catalog) : c.Layout c.display := by
  -- Padding may be empty, and there need not be blank tokens.
  have hfilter : ∀ f : Filter, f.Layout f.display := by
    intro f
    have h := Filter.Layout.mk (f := f) (.refl _ f.name) (.refl (f.displaySettings.pieces ','))
    rw [Text.join_pieces] at h
    exact h
  have hfilters : List.Forall₂ Filter.Layout c.filters (c.filters.map Filter.display) :=
    List.forall₂_map_right_iff.mpr (List.forall₂_same.mpr fun f _ => hfilter f)
  have h := Layout.mk hfilters (List.forall_mem_nil _)
  rw [List.append_nil] at h
  exact h

/-- However a well-formed catalog is laid out, starting from its `display`, `parse` reads it back.
    -/
theorem layout_insensitive {c : Catalog} (h : c.WellFormed) :
    c.Layout c.display ∧ ∀ t, c.Layout t → parse t = .ok c :=
  ⟨c.layout_display, fun _ ht => parse_of_layout h ht⟩

/-- Padding at every place at once, and blank tokens between the items of a list. -/
theorem layout_insensitive_padded :
    parse ",\n A\t( ), \x00,Size (\x0brequires = a=b ,\t,, Shape ,\r group= G ) ,\n".toList =
      .ok ⟨[⟨"A".toList, []⟩, ⟨"Size".toList,
        [⟨.requires, .list ["a=b".toList, "Shape".toList]⟩, ⟨.group, .scalar "G".toList⟩]⟩]⟩ := by
  have hsettings : ∀ s ∈ [Setting.mk .requires (.list ["a=b".toList, "Shape".toList]),
      ⟨.group, .scalar "G".toList⟩], s.WellFormed := by
    have hitems : ∀ t ∈ ["a=b".toList, "Shape".toList], t ≠ [] ∧ Text.IsItem t := by
      rw [List.forall_mem_cons, List.forall_mem_singleton]
      exact ⟨⟨by decide, by decide, by decide, by decide⟩, by decide, by decide, by decide,
        by decide⟩
    rw [List.forall_mem_cons, List.forall_mem_singleton]
    exact ⟨.list (by decide) hitems (by decide),
      .scalar (by decide) ⟨by decide, by decide, by decide⟩⟩
  have hwf : Catalog.WellFormed ⟨[⟨"A".toList, []⟩, ⟨"Size".toList, _⟩]⟩ :=
    ⟨by decide, List.forall_mem_cons.mpr
      ⟨⟨⟨by decide, List.forall_mem_nil _⟩, by decide, by decide, by decide, by decide⟩,
        List.forall_mem_singleton.mpr
          ⟨⟨by decide, hsettings⟩, by decide, by decide, by decide, by decide⟩⟩⟩
  have hA : Filter.Layout ⟨"A".toList, []⟩
      (",\n A\t".toList ++ '(' :: Text.join [','] [" ".toList] ++ [')']) := by
    have hpieces : Text.pieces ',' (Filter.displaySettings ⟨"A".toList, []⟩) = [[]] := by decide
    refine .mk (.intro ",\n ".toList _ "\t".toList (by decide) (by decide)) ?_
    rw [hpieces]
    exact .token (.bare (by decide) (.intro " ".toList _ [] (by decide) (by decide))) .nil
  have hrequires : Token.Layout ("requires".toList ++ '=' :: "a=b".toList)
      "\x0brequires = a=b ".toList :=
    .keyed (by decide) (.intro "\x0b".toList _ " ".toList (by decide) (by decide))
      (.intro " ".toList _ " ".toList (by decide) (by decide))
  have hblank : ∀ c ∈ "\t".toList, Text.isBlank c = true := List.all_eq_true.mp (by decide)
  have hshape : Token.Layout "Shape".toList " Shape ".toList :=
    .bare (by decide) (.intro " ".toList _ " ".toList (by decide) (by decide))
  have hgroup : Token.Layout ("group".toList ++ '=' :: "G".toList) "\r group= G ".toList :=
    .keyed (by decide) (.intro "\r ".toList _ [] (by decide) (by decide))
      (.intro " ".toList _ " ".toList (by decide) (by decide))
  have hSize : Filter.Layout ⟨"Size".toList,
      [⟨.requires, .list ["a=b".toList, "Shape".toList]⟩, ⟨.group, .scalar "G".toList⟩]⟩
      ("\x00,Size ".toList ++ '(' :: Text.join [','] ["\x0brequires = a=b ".toList, "\t".toList, [],
        " Shape ".toList, "\r group= G ".toList] ++ [')']) := by
    have hpieces : Text.pieces ',' (Filter.displaySettings ⟨"Size".toList,
        [⟨.requires, .list ["a=b".toList, "Shape".toList]⟩, ⟨.group, .scalar "G".toList⟩]⟩) =
        ["requires".toList ++ '=' :: "a=b".toList, "Shape".toList,
          "group".toList ++ '=' :: "G".toList] := by
      decide
    refine .mk (.intro "\x00,".toList _ " ".toList (by decide) (by decide)) ?_
    rw [hpieces]
    exact .token hrequires (.blank hblank (.blank (List.forall_mem_nil _)
      (.token hshape (.token hgroup .nil))))
  have hpad : ∀ c ∈ " ,\n".toList, Text.isNamePadding c = true :=
    List.all_eq_true.mp (by decide)
  have hlayout := Layout.mk (c := ⟨[_, _]⟩) (.cons hA (.cons hSize .nil)) hpad
  refine Eq.trans (congrArg parse ?_) ((layout_insensitive hwf).2 _ hlayout)
  decide +kernel

end Catalog

end Facets
