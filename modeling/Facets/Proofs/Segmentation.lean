import Facets.Filter.Specification
import Facets.Proofs.ScannerGroups

/-!
# Segmentations

A specification consists of closed groups `name(settings)`, of text in front of them that ends in
a `)` which closes nothing, and of a rest in which nothing is closed.  `Segmentation` says so
without the scanner, and each text has one (`Segmentation.nonempty`).

What a specification writes depends only on the names and settings of its groups
(`Catalog.addSpecification_eq`), since reading passes over all else.  So does padding in front of
it: it goes to the first name, where it is trimmed off, or is passed over
(`Catalog.addSpecification_padding`).  After it, padding closes nothing, so that a padded
specification is read like the one inside (`Catalog.addSpecification_padded`).
-/

namespace Facets

/-! ## Texts divided into groups -/

/-- A text that is passed over: it opens no group, and it ends in a `)` unless it is empty. -/
def Text.IsJunk (t : Text) : Prop := '(' ∉ t ∧ (t = [] ∨ t.getLast? = some ')')

instance (t : Text) : Decidable t.IsJunk := inferInstanceAs (Decidable (_ ∧ _))

/-- A closed group `name(settings)` with what is passed over in front of it. -/
structure Group where
  junk : Text
  name : Text
  settings : Text
  isJunk_junk : junk.IsJunk
  isParen_name : ∀ c ∈ name, Scanner.isParen c = false
  close_not_mem_settings : ')' ∉ settings

/-- A group as it stands in a specification. -/
def Group.text (g : Group) : Text := g.junk ++ (g.name ++ '(' :: (g.settings ++ [')']))

/-- `Group.text` with what follows it, as one bracketed list. -/
theorem Group.text_append (g : Group) (t : Text) :
    g.text ++ t = g.junk ++ (g.name ++ '(' :: (g.settings ++ ')' :: t)) := by
  simp [text]

/-- A text, divided into its closed groups and what stands after them. -/
structure Segmentation (t : Text) where
  groups : List Group
  /-- What is passed over after the last group. -/
  junk : Text
  /-- What is left over after the last parenthesis that is passed. -/
  rest : Text
  isJunk_junk : junk.IsJunk
  close_not_mem_rest : ')' ∉ rest
  text_eq : groups.flatMap Group.text ++ (junk ++ rest) = t

namespace Text

theorem IsJunk.nil : IsJunk [] := ⟨List.not_mem_nil, .inl rfl⟩

/-- A text without `(` becomes junk by a `)` at its end. -/
theorem IsJunk.concat {u : Text} (h : '(' ∉ u) : IsJunk (u ++ [')']) := by
  refine ⟨?_, .inr (List.getLast?_eq_some_iff.mpr ⟨u, rfl⟩)⟩
  simp [h]

/-- Two texts that are junk are junk, one after the other. -/
theorem IsJunk.append {u v : Text} (hu : u.IsJunk) (hv : v.IsJunk) : (u ++ v).IsJunk := by
  refine ⟨by simp [hu.1, hv.1], ?_⟩
  rcases hv.2 with rfl | hlast
  · rw [List.append_nil]
    exact hu.2
  · right
    rw [List.getLast?_append, hlast]
    rfl

end Text

/-- `Scanner.segments` passes over junk, however many `)` stand in it. -/
theorem Scanner.segments_junk {u : Text} (hu : u.IsJunk) (t : Text) (pos : Nat) :
    (Scanner.mk (u ++ t) pos).segments = (Scanner.mk t (pos + Text.byteLength u)).segments := by
  rcases hu.2 with rfl | hlast
  · rfl
  · -- Junk that is not empty is some text without `(`, with a `)` at its end.
    obtain ⟨v, rfl⟩ := List.getLast?_eq_some_iff.mp hlast
    have hopen : '(' ∉ v := fun hm => hu.1 (List.mem_append_left _ hm)
    have hlen : pos + Text.byteLength (v ++ [')']) = pos + Text.byteLength v + 1 := by
      rw [Text.byteLength_append]
      rfl
    rw [← List.append_cons, hlen, Scanner.segments_congr (Scanner.next_stray hopen t pos)]

namespace Segmentation

/-- More junk in front of a text goes to its first group, or to what stands after all groups. -/
private theorem nonempty_junk {u t : Text} (hu : u.IsJunk) (d : Segmentation t) :
    Nonempty (Segmentation (u ++ t)) := by
  obtain ⟨groups, junk, rest, hjunk, hrest, rfl⟩ := d
  cases groups with
  | nil => exact ⟨[], u ++ junk, rest, hu.append hjunk, hrest, by simp⟩
  | cons g gs =>
    have hg := hu.append g.isJunk_junk
    exact ⟨{ g with junk := u ++ g.junk, isJunk_junk := hg } :: gs, junk, rest, hjunk, hrest,
      by simp [Group.text]⟩

/-- Each text has a `Segmentation`. -/
theorem nonempty (t : Text) : Nonempty (Segmentation t) := by
  -- The induction is on the ways in which the scanner begins, so each case adds what it passes.
  induction t using Scanner.scan_induction with
  | rest t h => exact ⟨[], [], t, .nil, h, rfl⟩
  | close u t hu ih =>
    obtain ⟨d⟩ := ih
    have hopen : '(' ∉ u := fun hm => nomatch hu _ hm
    rw [List.append_cons]
    exact d.nonempty_junk (.concat hopen)
  | group name settings t hname hsettings ih =>
    obtain ⟨d⟩ := ih
    exact ⟨⟨[], name, settings, .nil, hname, hsettings⟩ :: d.groups, d.junk, d.rest,
      d.isJunk_junk, d.close_not_mem_rest, by simp [Group.text, d.text_eq]⟩

end Segmentation

/-! ## Reading what a segmentation consists of -/

namespace Catalog

/-- A catalog into which a specification is read. -/
def addSpecification (c : Catalog) (t : Text) : Except FilterError Catalog :=
  (Segment.ofText t).foldlM addSegment c

/-- A catalog into which one group is read; where the group stands makes no difference. -/
def addGroup (c : Catalog) (g : Group) : Except FilterError Catalog :=
  c.addSegment ⟨g.name, g.settings, 0⟩

theorem addSpecification_empty (t : Text) : empty.addSpecification t = parse t := rfl

/-- It makes no difference to `addSpecification` how many bytes stand in front of a text. -/
private theorem foldlM_segments_eq (t : Text) : ∀ (pos : Nat) (c : Catalog),
    (Scanner.mk t pos).segments.foldlM addSegment c = c.addSpecification t := by
  -- What is left after a step stands elsewhere, so the induction is for all positions at once.
  induction t using Scanner.scan_induction with
  | rest t h =>
    intro pos c
    rw [addSpecification, Segment.ofText, Scanner.segments_of_close_not_mem h pos,
      Scanner.segments_of_close_not_mem h 0]
  | close u t hu ih =>
    intro pos c
    rw [addSpecification, Segment.ofText, Scanner.segments_congr (Scanner.next_close hu t pos),
      Scanner.segments_congr (Scanner.next_close hu t 0), ih, ih]
  | group name settings t hname hsettings ih =>
    intro pos c
    rw [addSpecification, Segment.ofText,
      Scanner.segments_of_next (Scanner.next_group hname hsettings t pos),
      Scanner.segments_of_next (Scanner.next_group hname hsettings t 0), List.foldlM_cons,
      List.foldlM_cons]
    -- Both sides go on behind the group, each at a position of its own.
    simp only [ih]
    rfl

variable (c : Catalog)

/-- `addSpecification` reads nothing from a text without `)`. -/
theorem addSpecification_of_close_not_mem {t : Text} (h : ')' ∉ t) :
    c.addSpecification t = .ok c := by
  rw [addSpecification, Segment.ofText, Scanner.segments_of_close_not_mem h 0]
  rfl

/-- `addSpecification` passes over junk. -/
theorem addSpecification_junk {u : Text} (hu : u.IsJunk) (t : Text) :
    c.addSpecification (u ++ t) = c.addSpecification t := by
  rw [addSpecification, Segment.ofText, Scanner.segments_junk hu, foldlM_segments_eq]

/-- `addSpecification` reads a closed group, and then what stands after it. -/
theorem addSpecification_group {name settings : Text}
    (hname : ∀ x ∈ name, Scanner.isParen x = false) (hsettings : ')' ∉ settings) (t : Text) :
    c.addSpecification (name ++ '(' :: (settings ++ ')' :: t)) =
      (c.addSegment ⟨name, settings, 0⟩ >>= fun c' => c'.addSpecification t) := by
  rw [addSpecification, Segment.ofText,
    Scanner.segments_of_next (Scanner.next_group hname hsettings t 0), List.foldlM_cons]
  simp only [foldlM_segments_eq]

/-- `addSpecification` reads groups one after the other, and then what stands after them. -/
theorem addSpecification_groups (gs : List Group) (t : Text) :
    c.addSpecification (gs.flatMap Group.text ++ t) =
      (gs.foldlM addGroup c >>= fun c' => c'.addSpecification t) := by
  induction gs generalizing c with
  | nil => rfl
  | cons g gs ih =>
    rw [List.flatMap_cons, List.append_assoc, g.text_append, addSpecification_junk c g.isJunk_junk,
      addSpecification_group c g.isParen_name g.close_not_mem_settings, List.foldlM_cons,
      bind_assoc]
    simp only [ih]
    rfl

/-- What `addSpecification` reads depends only on the groups of a text. -/
theorem addSpecification_eq {t : Text} (d : Segmentation t) :
    c.addSpecification t = d.groups.foldlM addGroup c := by
  obtain ⟨groups, junk, rest, hjunk, hrest, rfl⟩ := d
  rw [addSpecification_groups]
  -- After the groups nothing is read any more.
  have hend : ∀ c' : Catalog, c'.addSpecification (junk ++ rest) = pure c' := fun c' => by
    rw [addSpecification_junk c' hjunk, addSpecification_of_close_not_mem c' hrest]
    rfl
  simp only [hend, bind_pure]

/-- `addSpecification` trims padding in front off the first name, or passes over it. -/
theorem addSpecification_padding {pad : Text} (hpad : ∀ x ∈ pad, Text.isNamePadding x = true)
    (t : Text) : c.addSpecification (pad ++ t) = c.addSpecification t := by
  -- No parenthesis is padding.
  have hopen : '(' ∉ pad := fun hm => nomatch hpad _ hm
  have hclose : ')' ∉ pad := fun hm => nomatch hpad _ hm
  rcases Scanner.scan_cases t with h | ⟨u, rest, hu, rfl⟩ |
    ⟨name, settings, rest, hname, hsettings, rfl⟩
  · have h' : ')' ∉ pad ++ t := by simp [hclose, h]
    rw [c.addSpecification_of_close_not_mem h, c.addSpecification_of_close_not_mem h']
  · -- The padding becomes a part of the junk.
    have hopen' : '(' ∉ u := fun hm => nomatch hu _ hm
    have hjunk : (pad ++ u ++ [')']).IsJunk := .concat (by simp [hopen, hopen'])
    rw [← List.append_assoc, List.append_cons, List.append_cons u,
      c.addSpecification_junk hjunk, c.addSpecification_junk (.concat hopen')]
  · -- The padding becomes a part of the name.
    have hname' : ∀ x ∈ pad ++ name, Scanner.isParen x = false := by
      refine List.forall_mem_append.mpr ⟨fun x hx => ?_, hname⟩
      exact Scanner.isParen_eq_false.mpr ⟨fun e => hopen (e ▸ hx), fun e => hclose (e ▸ hx)⟩
    have hadd : c.addSegment ⟨pad ++ name, settings, 0⟩ = c.addSegment ⟨name, settings, 0⟩ := by
      have htrim : Text.trimName (pad ++ name) = Text.trimName name :=
        Text.trim_append_left hpad name
      rw [addSegment, addSegment, htrim]
    rw [← List.append_assoc, c.addSpecification_group hname' hsettings,
      c.addSpecification_group hname hsettings, hadd]

/-- What stands after a specification makes no difference to `addSpecification` if it closes
    nothing. -/
private theorem addSpecification_append_right {r : Text} (h : ')' ∉ r) (t : Text) :
    c.addSpecification (t ++ r) = c.addSpecification t := by
  obtain ⟨d⟩ := Segmentation.nonempty t
  -- The text that is added becomes a part of what is left over, and the groups stay.
  let d' : Segmentation (t ++ r) :=
    { d with
      rest := d.rest ++ r
      close_not_mem_rest := by simp [d.close_not_mem_rest, h]
      text_eq := by rw [← List.append_assoc, ← List.append_assoc, List.append_assoc _ d.junk,
        d.text_eq] }
  rw [addSpecification_eq c d, addSpecification_eq c d']

/-- Padding around a specification makes no difference to `addSpecification`. -/
theorem addSpecification_padded {t u : Text} (h : Text.Padded Text.isNamePadding t u) :
    c.addSpecification u = c.addSpecification t := by
  obtain ⟨l, r, hl, hr, rfl⟩ := h
  have hclose : ')' ∉ r := fun hm => nomatch hr _ hm
  -- The padding at the end goes first, since it needs no room for what follows.
  rw [addSpecification_append_right c hclose, addSpecification_padding c hl]

end Catalog

end Facets
