import Facets.Proofs.TextLemmas
import Facets.Table

/-!
# Tables with and without colours

A table has the same text with colours and without.  `Text.withoutStyles` removes the control
sequences that select a way of writing, from left to right, whoever wrote them: the texts of a
table may hold such sequences, or parts of them, too.

No part that a name or a value leaves open is completed by what a table adds to it.  What follows a
painted text begins with a character that belongs into no sequence (`Text.StartsApart`), so
each part of a table can be read alone (`Text.withoutStyles_append`), and painting it makes no
difference (`Style.withoutStyles_paint_append`).
-/

namespace Facets

/-! ## Control sequences -/

namespace Text

/-- The characters between the beginning of a control sequence and its end. -/
def isStyleParameter (c : Char) : Bool := c.isDigit || c == ';'

/-- A control sequence that selects a way of writing. -/
def IsStyleSequence (s : Text) : Prop :=
  ∃ ps, (∀ c ∈ ps, isStyleParameter c = true) ∧ s = '\x1b' :: '[' :: (ps ++ ['m'])

/-- What follows the control sequence that a text begins with. -/
def afterStyleSequence? : Text → Option Text
  | '\x1b' :: '[' :: cs =>
    match cs.dropWhile isStyleParameter with
    | 'm' :: rest => some rest
    | _ => none
  | _ => none

/-- `afterStyleSequence?` finds a control sequence just if the text begins with one. -/
theorem afterStyleSequence?_eq_some_iff {t rest : Text} :
    afterStyleSequence? t = some rest ↔ ∃ s, IsStyleSequence s ∧ t = s ++ rest := by
  constructor
  · intro h
    unfold afterStyleSequence? at h
    split at h
    · rename_i cs
      split at h
      · rename_i hdrop
        cases h
        refine ⟨_, ⟨cs.takeWhile isStyleParameter, fun c hc => List.mem_takeWhile_imp hc, rfl⟩, ?_⟩
        have hcs := List.takeWhile_append_dropWhile (p := isStyleParameter) (l := cs)
        rw [hdrop] at hcs
        simp [hcs]
      · exact nomatch h
    · exact nomatch h
  · rintro ⟨s, ⟨ps, hps, rfl⟩, rfl⟩
    -- The parameters end at the `m`.
    have hdrop : (ps ++ 'm' :: rest).dropWhile isStyleParameter = 'm' :: rest := by
      rw [List.dropWhile_append_of_pos hps, List.dropWhile_cons_of_neg (by decide)]
    simp [afterStyleSequence?, hdrop]

/-- What `afterStyleSequence?` leaves is shorter. -/
private theorem length_of_afterStyleSequence? {t rest : Text}
    (h : afterStyleSequence? t = some rest) : rest.length < t.length := by
  obtain ⟨s, ⟨ps, -, rfl⟩, rfl⟩ := afterStyleSequence?_eq_some_iff.mp h
  simp only [List.cons_append, List.length_cons, List.length_append]
  omega

/-- A text without its control sequences. -/
def withoutStyles : Text → Text
  | [] => []
  | c :: cs =>
    match h : afterStyleSequence? (c :: cs) with
    | some rest =>
      have := length_of_afterStyleSequence? h
      withoutStyles rest
    | none => c :: withoutStyles cs
termination_by t => t.length
decreasing_by
  · assumption
  · exact Nat.lt_succ_self cs.length

theorem withoutStyles_nil : withoutStyles [] = [] := by rw [withoutStyles]

/-- `withoutStyles` leaves out the sequence that a text begins with. -/
private theorem withoutStyles_of_eq_some {t rest : Text} (h : afterStyleSequence? t = some rest) :
    withoutStyles t = withoutStyles rest := by
  cases t with
  | nil => exact nomatch h
  | cons c cs =>
    rw [withoutStyles]
    split
    · rename_i h'
      rw [h] at h'
      cases h'
      rfl
    · rename_i h'
      rw [h] at h'
      cases h'

/-- `withoutStyles` keeps a character with which no sequence begins. -/
private theorem withoutStyles_of_eq_none {c : Char} {cs : Text}
    (h : afterStyleSequence? (c :: cs) = none) :
    withoutStyles (c :: cs) = c :: withoutStyles cs := by
  rw [withoutStyles]
  split
  · rename_i h'
    rw [h] at h'
    cases h'
  · rfl

/-- `withoutStyles` removes a control sequence. -/
theorem withoutStyles_sequence_append {s : Text} (hs : IsStyleSequence s) (t : Text) :
    withoutStyles (s ++ t) = withoutStyles t :=
  withoutStyles_of_eq_some (afterStyleSequence?_eq_some_iff.mpr ⟨s, hs, rfl⟩)

/-! ## Parts of a text -/

/-- No control sequence that begins before a text reaches into it. -/
def StartsApart (t : Text) : Prop :=
  ∀ c ∈ t.head?, c ≠ '[' ∧ c ≠ 'm' ∧ isStyleParameter c = false

/-- An `IsStyleSequence` is one character and then others that nothing apart begins with. -/
private theorem IsStyleSequence.not_startsApart {a t : Text} (h : IsStyleSequence (a ++ t))
    (ha : a ≠ []) (ht : t ≠ []) : ¬StartsApart t := by
  intro hapart
  obtain ⟨ps, hps, heq⟩ := h
  obtain ⟨x, a, rfl⟩ := List.exists_cons_of_ne_nil ha
  obtain ⟨c, t, rfl⟩ := List.exists_cons_of_ne_nil ht
  obtain ⟨hopen, hclose, hparameter⟩ := hapart c rfl
  rw [List.cons_append, List.cons.injEq] at heq
  have hc : c ∈ '[' :: (ps ++ ['m']) := by simp [← heq.2]
  simp only [List.mem_cons, List.mem_append, List.not_mem_nil, or_false] at hc
  rcases hc with hc | hc | hc
  · exact hopen hc
  · simp [hps c hc] at hparameter
  · exact hclose hc

/-- What `StartsApart` makes no difference to the sequence before it. -/
private theorem afterStyleSequence?_append {a t : Text} (ha : a ≠ []) (ht : StartsApart t) :
    afterStyleSequence? (a ++ t) = (afterStyleSequence? a).map (· ++ t) := by
  ext rest
  simp only [Option.map_eq_some_iff, afterStyleSequence?_eq_some_iff]
  constructor
  · rintro ⟨s, hs, heq⟩
    rcases List.append_eq_append_iff.mp heq with ⟨u, rfl, rfl⟩ | ⟨u, rfl, rfl⟩
    · cases u with
      | nil => exact ⟨[], ⟨a, by simpa using hs, by simp⟩, rfl⟩
      | cons c u =>
        -- The sequence would reach into what stands apart.
        have hapart : StartsApart (c :: u) := fun x hx => ht x hx
        exact absurd hapart (hs.not_startsApart ha (List.cons_ne_nil c u))
    · exact ⟨u, ⟨s, hs, rfl⟩, rfl⟩
  · rintro ⟨u, ⟨s, hs, rfl⟩, rfl⟩
    exact ⟨s, hs, by simp⟩

/-- What `StartsApart` is read alone, and so is what stands before it. -/
theorem withoutStyles_append {a t : Text} (ht : StartsApart t) :
    withoutStyles (a ++ t) = withoutStyles a ++ withoutStyles t := by
  induction a using withoutStyles.induct with
  | case1 => rw [List.nil_append, withoutStyles_nil, List.nil_append]
  -- A sequence is found in the whole where it is found in the first part.
  | case2 c cs rest h _ ih =>
    have happend := afterStyleSequence?_append (List.cons_ne_nil c cs) ht
    rw [h, Option.map_some] at happend
    rw [withoutStyles_of_eq_some happend, withoutStyles_of_eq_some h, ih]
  | case3 c cs h ih =>
    have happend := afterStyleSequence?_append (List.cons_ne_nil c cs) ht
    rw [h, Option.map_none, List.cons_append] at happend
    rw [List.cons_append, withoutStyles_of_eq_none happend, withoutStyles_of_eq_none h, ih,
      List.cons_append]

/-- `withoutStyles` leaves a text in which no sequence begins as it is, whatever follows it. -/
theorem withoutStyles_append_of_not_mem {a : Text} (ha : '\x1b' ∉ a) (t : Text) :
    withoutStyles (a ++ t) = a ++ withoutStyles t := by
  induction a with
  | nil => rfl
  | cons c cs ih =>
    rw [List.mem_cons, not_or] at ha
    -- Every sequence begins with the escape character.
    have hnone : afterStyleSequence? (c :: (cs ++ t)) = none := by
      rw [Option.eq_none_iff_forall_ne_some]
      intro rest hrest
      obtain ⟨s, ⟨ps, -, rfl⟩, heq⟩ := afterStyleSequence?_eq_some_iff.mp hrest
      exact ha.1 (List.cons.inj heq).1.symm
    rw [List.cons_append, withoutStyles_of_eq_none hnone, ih ha.2, List.cons_append]

/-- `withoutStyles` leaves a text alone in which no sequence begins. -/
theorem withoutStyles_of_not_mem {t : Text} (ht : '\x1b' ∉ t) : withoutStyles t = t := by
  have h := withoutStyles_append_of_not_mem ht []
  rwa [List.append_nil, withoutStyles_nil, List.append_nil] at h

/-- `withoutStyles` reads parts alone that are joined with a separator that `StartsApart`. -/
theorem withoutStyles_join {sep : Text} (hne : sep ≠ []) (hapart : StartsApart sep)
    (hsep : '\x1b' ∉ sep) (ps : List Text) :
    withoutStyles (join sep ps) = join sep (ps.map withoutStyles) := by
  induction ps with
  | nil => simp [withoutStyles_nil]
  | cons a ps ih =>
    cases ps with
    | nil => simp
    | cons b ps =>
      have hrest : StartsApart (sep ++ join sep (b :: ps)) := by
        obtain ⟨c, cs, rfl⟩ := List.exists_cons_of_ne_nil hne
        exact hapart
      rw [join_cons_cons, List.append_assoc, withoutStyles_append hrest,
        withoutStyles_append_of_not_mem hsep, ih]
      simp [join_cons_cons]

end Text

open Text

/-! ## Painted texts -/

namespace Style

private theorem isStyleSequence_start (s : Style) : IsStyleSequence s.start := by
  cases s with
  | dimmed => exact ⟨['2'], by simp [isStyleParameter], rfl⟩
  | bold => exact ⟨['1'], by simp [isStyleParameter], rfl⟩
  | cyan => exact ⟨['3', '6'], by simp [isStyleParameter], rfl⟩
  | green => exact ⟨['3', '2'], by simp [isStyleParameter], rfl⟩

private theorem isStyleSequence_stop (s : Style) : IsStyleSequence s.stop := by
  cases s with
  | dimmed | bold => exact ⟨['0'], by simp [isStyleParameter], rfl⟩
  | cyan | green => exact ⟨['3', '9'], by simp [isStyleParameter], rfl⟩

/-- `Style.stop` stands apart from what is before it. -/
private theorem startsApart_stop_append (s : Style) (t : Text) : StartsApart (s.stop ++ t) := by
  obtain ⟨ps, -, hstop⟩ := s.isStyleSequence_stop
  rw [hstop]
  intro c hc
  obtain rfl : '\x1b' = c := by simpa using hc
  decide

/-- What `Style.paint` paints is what it was, once the sequences are removed. -/
theorem withoutStyles_paint_append (s : Style) (colors : Bool) (a : Text) {t : Text}
    (ht : StartsApart t) :
    withoutStyles (s.paint colors a ++ t) = withoutStyles a ++ withoutStyles t := by
  cases colors with
  | false => exact withoutStyles_append ht
  | true =>
    -- The sequence in front is removed at once; the one behind stands apart, so it is read alone
    -- and then removed.
    show withoutStyles (s.start ++ a ++ s.stop ++ t) = _
    rw [List.append_assoc, List.append_assoc, withoutStyles_sequence_append s.isStyleSequence_start,
      withoutStyles_append (s.startsApart_stop_append t),
      withoutStyles_sequence_append s.isStyleSequence_stop]

/-- `Style.paint` makes no difference at the end of a text, either. -/
private theorem withoutStyles_paint (s : Style) (colors : Bool) (a : Text) :
    withoutStyles (s.paint colors a) = withoutStyles a := by
  have hnil : StartsApart [] := fun c hc => nomatch hc
  have h := s.withoutStyles_paint_append colors a hnil
  rwa [List.append_nil, withoutStyles_nil, List.append_nil] at h

end Style

/-! ## Parts of a table -/

/-- Nothing is left open at the end of a `line`. -/
theorem withoutStyles_line_append (a t : Text) :
    withoutStyles (line a ++ t) = withoutStyles a ++ '\n' :: withoutStyles t := by
  have hapart : StartsApart ('\n' :: t) := by simp [StartsApart, isStyleParameter]
  have hend : withoutStyles ('\n' :: t) = '\n' :: withoutStyles t :=
    withoutStyles_append_of_not_mem (a := ['\n']) (by decide) t
  show withoutStyles (a ++ ['\n'] ++ t) = _
  rw [List.append_assoc, List.singleton_append, withoutStyles_append hapart, hend]

/-- Whether a part of a table, with colours or without, is read alone and has the same text. -/
def ReadsPlain (part : Bool → Text) : Prop :=
  ∀ colors t, withoutStyles (part colors ++ t) = withoutStyles (part false) ++ withoutStyles t

section ReadsPlain

variable {part part' : Bool → Text}

/-- A part that `ReadsPlain` has the same text with colours and without. -/
theorem ReadsPlain.eq (h : ReadsPlain part) (colors : Bool) :
    withoutStyles (part colors) = withoutStyles (part false) := by
  have hnil := h colors []
  rwa [List.append_nil, withoutStyles_nil, List.append_nil] at hnil

theorem ReadsPlain.nil : ReadsPlain fun _ => [] := by
  intro _ t
  simp [withoutStyles_nil]

/-- `ReadsPlain` holds of parts one after the other. -/
theorem ReadsPlain.append (h : ReadsPlain part) (h' : ReadsPlain part') :
    ReadsPlain fun colors => part colors ++ part' colors := by
  intro colors t
  rw [List.append_assoc, h, h', h false, List.append_assoc]

/-- `ReadsPlain` holds of any number of parts. -/
theorem ReadsPlain.flatMap {α : Type} {l : List α} {parts : Bool → α → Text}
    (h : ∀ a, ReadsPlain fun colors => parts colors a) :
    ReadsPlain fun colors => l.flatMap (parts colors) := by
  induction l with
  | nil => exact .nil
  | cons a l ih =>
    simp only [List.flatMap_cons]
    exact (h a).append ih

/-- A line `ReadsPlain`, if painting makes no difference to its text. -/
theorem ReadsPlain.line (h : ∀ colors, withoutStyles (part colors) = withoutStyles (part false)) :
    ReadsPlain fun colors => Facets.line (part colors) := by
  intro colors t
  have hnil := withoutStyles_line_append (part false) []
  rw [List.append_nil, withoutStyles_nil] at hnil
  rw [withoutStyles_line_append, h, hnil, List.append_assoc, List.singleton_append]

end ReadsPlain

/-- `Setting.cell` paints a key, which makes no difference. -/
private theorem Setting.withoutStyles_cell (colors : Bool) (s : Setting) :
    withoutStyles (s.cell colors) = withoutStyles (s.cell false) := by
  have hapart : StartsApart (" = ".toList ++ join ", ".toList s.value.toList) := by
    simp [StartsApart, isStyleParameter]
  simp only [cell, List.append_assoc, Style.withoutStyles_paint_append _ _ _ hapart]

/-- Nor does it in `Filter.cells`, where commas stand between the settings. -/
private theorem Filter.withoutStyles_cells (colors : Bool) (f : Filter) :
    withoutStyles (f.cells colors) = withoutStyles (f.cells false) := by
  unfold cells
  split
  · rfl
  · have hapart : StartsApart ", ".toList := by simp [StartsApart, isStyleParameter]
    have hmap : (f.settings.map (Setting.cell colors)).map withoutStyles =
        (f.settings.map (Setting.cell false)).map withoutStyles := by
      simp [Setting.withoutStyles_cell colors]
    rw [withoutStyles_join (by decide) hapart (by decide), hmap,
      withoutStyles_join (by decide) hapart (by decide)]

/-- In `Filter.row` the name is padded before it is painted, and a space stands between it and the
    settings. -/
private theorem Filter.readsPlain_row (f : Filter) : ReadsPlain fun colors => f.row colors := by
  refine .line fun colors => ?_
  have hcells : ∀ colors,
      withoutStyles (' ' :: f.cells colors) = ' ' :: withoutStyles (f.cells false) := by
    intro colors
    have h := withoutStyles_append_of_not_mem (a := [' ']) (by decide) (f.cells colors)
    rw [f.withoutStyles_cells] at h
    exact h
  have hapart : ∀ colors, StartsApart (' ' :: f.cells colors) := by
    simp [StartsApart, isStyleParameter]
  rw [Style.withoutStyles_paint_append _ _ _ (hapart colors),
    Style.withoutStyles_paint_append _ _ _ (hapart false), hcells, hcells]

private theorem readsPlain_tableHeading : ReadsPlain tableHeading :=
  .line fun colors => by rw [Style.withoutStyles_paint, Style.withoutStyles_paint]

/-- `Catalog.table` is its heading and one row for each filter. -/
private theorem Catalog.readsPlain_table (c : Catalog) :
    ReadsPlain fun colors => c.table colors := by
  unfold table
  split
  · exact .line fun _ => rfl
  · exact readsPlain_tableHeading.append (.flatMap Filter.readsPlain_row)

/-- A `labelled` value is a line with a painted label, or nothing. -/
private theorem readsPlain_labelled (label : String) (value : Option Text) :
    ReadsPlain fun colors => labelled colors label value := by
  cases value with
  | none => exact .nil
  | some t =>
    refine .line fun colors => ?_
    have hapart : StartsApart (": ".toList ++ t) := by simp [StartsApart, isStyleParameter]
    simp only [List.append_assoc, Style.withoutStyles_paint_append _ _ _ hapart]

/-- `Info.table` is the table of the filters and four labelled values. -/
private theorem Info.readsPlain_table (i : Info) : ReadsPlain fun colors => i.table colors :=
  (((i.filters.readsPlain_table.append (readsPlain_labelled _ _)).append
    (readsPlain_labelled _ _)).append (readsPlain_labelled _ _)).append (readsPlain_labelled _ _)

/-! ## Tables of texts without control characters -/

/-- The texts of a filter that stand in a table. -/
def Filter.texts (f : Filter) : List Text := f.name :: f.settings.flatMap (·.value.toList)

/-- The texts of some browse settings that stand in a table. -/
def Info.texts (i : Info) : List Text :=
  i.filters.filters.flatMap Filter.texts ++
    [i.title, i.displayParameters, i.printouts, i.exportFormat].filterMap id

private theorem Setting.escape_not_mem_cell {s : Setting} (h : ∀ t ∈ s.value.toList, '\x1b' ∉ t) :
    '\x1b' ∉ s.cell false := by
  have hkey : '\x1b' ∉ s.key.name := by
    cases s.key <;> decide
  have hvalue : '\x1b' ∉ join [',', ' '] s.value.toList := not_mem_join (by decide) h
  simp [cell, Style.paint, hkey, hvalue]

private theorem Filter.escape_not_mem_row {f : Filter} (h : ∀ t ∈ f.texts, '\x1b' ∉ t) :
    '\x1b' ∉ f.row false := by
  have hname : '\x1b' ∉ f.name := h _ List.mem_cons_self
  have hcells : '\x1b' ∉ f.cells false := by
    unfold cells
    split
    · decide
    · refine not_mem_join (by decide) fun t ht => ?_
      obtain ⟨s, hs, rfl⟩ := List.mem_map.mp ht
      refine Setting.escape_not_mem_cell fun t ht => h t ?_
      exact List.mem_cons_of_mem _ (List.mem_flatMap.mpr ⟨s, hs, ht⟩)
  simp [row, line, Style.paint, padRight, hname, hcells]

private theorem escape_not_mem_labelled {label : String} {value : Option Text}
    (hlabel : '\x1b' ∉ label.toList) (h : ∀ t ∈ value, '\x1b' ∉ t) :
    '\x1b' ∉ labelled false label value := by
  cases value with
  | none => simp [labelled]
  | some t => simp [labelled, line, Style.paint, hlabel, h t rfl]

/-- A plain `Info.table` has only the control characters of its texts. -/
private theorem Info.escape_not_mem_table {i : Info} (h : ∀ t ∈ i.texts, '\x1b' ∉ t) :
    '\x1b' ∉ i.table false := by
  have hfilters : ∀ f ∈ i.filters.filters, '\x1b' ∉ f.row false := by
    intro f hf
    refine Filter.escape_not_mem_row fun t ht => h t ?_
    exact List.mem_append_left _ (List.mem_flatMap.mpr ⟨f, hf, ht⟩)
  have hcatalog : '\x1b' ∉ i.filters.table false := by
    unfold Catalog.table
    split
    · decide
    · have hheading : '\x1b' ∉ tableHeading false := by decide
      simpa [hheading] using hfilters
  -- Each of the four values is among the texts of the table, if it is there.
  have hfield : ∀ value ∈ [i.title, i.displayParameters, i.printouts, i.exportFormat],
      ∀ t ∈ value, '\x1b' ∉ t := by
    intro value hvalue t ht
    refine h t (List.mem_append_right _ (List.mem_filterMap.mpr ⟨value, hvalue, ht⟩))
  simp only [List.forall_mem_cons] at hfield
  obtain ⟨htitle, hdisplay, hprintouts, hexport, -⟩ := hfield
  simp only [table, List.mem_append, not_or]
  exact ⟨⟨⟨⟨hcatalog, escape_not_mem_labelled (by decide) htitle⟩,
    escape_not_mem_labelled (by decide) hdisplay⟩,
    escape_not_mem_labelled (by decide) hprintouts⟩, escape_not_mem_labelled (by decide) hexport⟩

/-- An `Info.table` with colours has the same text as the plain one, whatever control sequences its
    own texts hold.  If they hold none, what is left of it is the plain table itself. -/
theorem Info.table_without_styles (i : Info) :
    withoutStyles (i.table true) = withoutStyles (i.table false) ∧
      ((∀ t ∈ i.texts, '\x1b' ∉ t) → withoutStyles (i.table true) = i.table false) := by
  have hsame : withoutStyles (i.table true) = withoutStyles (i.table false) :=
    i.readsPlain_table.eq true
  refine ⟨hsame, fun h => ?_⟩
  rw [hsame, withoutStyles_of_not_mem (escape_not_mem_table h)]

/-- A short name is padded in both tables.  A long name is not, and what it leaves open at its end
    stays open: it is completed neither by the sequence after it nor by the space. -/
theorem Info.table_without_styles_padded :
    let i : Info := {
      filters := ⟨[⟨"Color".toList, [⟨.property, .scalar "Has color".toList⟩]⟩]⟩
      title := some "Fruit".toList }
    let j : Info := { filters := ⟨[⟨"A name that is long \x1b[3".toList, []⟩]⟩ }
    (∀ t ∈ i.texts, '\x1b' ∉ t) ∧
      withoutStyles (i.table true) = "Filter               Settings\n".toList ++
        "Color                property = Has color\n".toList ++ "Title: Fruit\n".toList ∧
      withoutStyles (j.table true) = j.table false := by
  intro i j
  have hescape : ∀ t ∈ i.texts, '\x1b' ∉ t := by decide
  have hplain : i.table false = "Filter               Settings\n".toList ++
      "Color                property = Has color\n".toList ++ "Title: Fruit\n".toList := by
    decide
  have hopen : withoutStyles (j.table false) = j.table false := by decide +kernel
  exact ⟨hescape, (i.table_without_styles.2 hescape).trans hplain,
    j.table_without_styles.1.trans hopen⟩

end Facets
