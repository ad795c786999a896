import Facets.Link
import Facets.Proofs.TextLemmas

/-!
# Escaped texts in markup

A text that is escaped for HTML holds no character that would end it, and it is read back by
replacing its character references.  So an anchor can hold any texts: its element has one shape,
and each part of the element gives back the text that it was written for.

* `Html.decode_escapeText`, `Html.decode_escapeAttribute`: escaping is undone by decoding.
* `Anchor.Markup`: the parts of an element as they are written; `Anchor.Markup.eq_of_html_eq` says
  that they can be told apart.
* `Anchor.html_keeps_texts`: what follows for whole anchors.
-/

namespace Facets

namespace Html

/-! ## References -/

private theorem decode_cons {c : Char} (hc : c ≠ '&') (t : Text) : decode (c :: t) = c ::
    decode t := by
  rw [decode, if_neg hc]

/-- `decode` replaces a reference and goes on after it. -/
private theorem decode_reference (body : Text) {x : Char} (hall : body.all Reference.inBody = true)
    (hx : Reference.character? body = some x) (rest : Text) :
    decode ('&' :: (body ++ ';' :: rest)) = x :: decode rest := by
  have hbody := List.all_eq_true.mp hall
  have htake : (body ++ ';' :: rest).takeWhile Reference.inBody = body := by
    rw [List.takeWhile_append_of_pos hbody]
    simp [Reference.inBody]
  have hdrop : (body ++ ';' :: rest).dropWhile Reference.inBody = ';' :: rest := by
    rw [List.dropWhile_append_of_pos hbody]
    simp [Reference.inBody]
  -- The body is taken up to the semicolon, and is known, so it is replaced.
  rw [decode, if_pos rfl]
  split
  · rename_i rest' h
    rw [hdrop] at h
    cases h
    simp [htake, hx]
  · rename_i hnone
    exact absurd hdrop (hnone rest)

/-! ## Escaping -/

/-- What `escapeTextChar` writes is read as that character, whatever stands after it. -/
private theorem decode_escapeTextChar_append (c : Char) (t : Text) :
    decode (escapeTextChar c ++ t) = c :: decode t := by
  unfold escapeTextChar
  split
  · rename_i hc
    subst hc
    exact decode_reference "amp".toList (by decide) (by decide) t
  split
  · rename_i hc
    subst hc
    exact decode_reference "lt".toList (by decide) (by decide) t
  split
  · rename_i hc
    subst hc
    exact decode_reference "gt".toList (by decide) (by decide) t
  · exact decode_cons ‹_› t

/-- What `escapeAttributeChar` writes is read as that character, too. -/
private theorem decode_escapeAttributeChar_append (c : Char) (t : Text) :
    decode (escapeAttributeChar c ++ t) = c :: decode t := by
  unfold escapeAttributeChar
  split
  · rename_i hc
    subst hc
    exact decode_reference "quot".toList (by decide) (by decide) t
  · -- All but the quote is escaped as in a text.
    exact decode_escapeTextChar_append c t

/-- `decode` reads a text back if it reads back each of the characters. -/
private theorem decode_flatMap {f : Char → Text} (h : ∀ c t, decode (f c ++ t) = c :: decode t)
    (t : Text) : decode (t.flatMap f) = t := by
  induction t with
  | nil => simp [decode]
  | cons c t ih => rw [List.flatMap_cons, h, ih]

/-- `decode` undoes `escapeText`. -/
theorem decode_escapeText (t : Text) : decode (escapeText t) = t :=
  decode_flatMap decode_escapeTextChar_append t

/-- `decode` undoes `escapeAttribute`. -/
theorem decode_escapeAttribute (t : Text) : decode (escapeAttribute t) = t :=
  decode_flatMap decode_escapeAttributeChar_append t

/-- `escapeText` leaves no `<`, which would begin a tag. -/
private theorem less_not_mem_escapeText (t : Text) : '<' ∉ escapeText t := by
  intro h
  obtain ⟨c, -, hc⟩ := List.mem_flatMap.mp h
  unfold escapeTextChar at hc
  split at hc
  · exact absurd hc (by decide)
  split at hc
  · exact absurd hc (by decide)
  split at hc
  · exact absurd hc (by decide)
  · -- The character stands for itself, and it is another one.
    rename_i hne _
    exact hne (List.mem_singleton.mp hc).symm

/-- `escapeAttribute` leaves no quote, which would end the attribute. -/
private theorem quote_not_mem_escapeAttribute (t : Text) : '"' ∉ escapeAttribute t := by
  intro h
  obtain ⟨c, -, hc⟩ := List.mem_flatMap.mp h
  unfold escapeAttributeChar at hc
  split at hc
  · exact absurd hc (by decide)
  rename_i hne
  -- None of the references has a quote in it, either.
  unfold escapeTextChar at hc
  split at hc
  · exact absurd hc (by decide)
  split at hc
  · exact absurd hc (by decide)
  split at hc
  · exact absurd hc (by decide)
  · exact hne (List.mem_singleton.mp hc).symm

end Html

namespace Anchor

/-! ## The parts of an element -/

/-- The parts of an anchor as they are written into its element. -/
structure Markup where
  href : Text
  title : Option Text
  text : Text

namespace Markup

/-- The element with some parts. -/
def html (m : Markup) : Text :=
  match m.title with
  | none => "<a href=\"".toList ++ m.href ++ "\">".toList ++ m.text ++ "</a>".toList
  | some title =>
    "<a href=\"".toList ++ m.href ++ "\" title=\"".toList ++ title ++ "\">".toList ++ m.text ++
      "</a>".toList

/-- No part holds a character that ends it. -/
structure Contained (m : Markup) : Prop where
  href : '"' ∉ m.href
  title : ∀ t ∈ m.title, '"' ∉ t
  text : '<' ∉ m.text

/-- The anchor whose texts the parts stand for. -/
def decode (m : Markup) : Anchor :=
  ⟨Html.decode m.href, m.title.map Html.decode, Html.decode m.text⟩

/-- What follows the closing quote of the address. -/
def tail (m : Markup) : Text :=
  match m.title with
  | none => '>' :: (m.text ++ "</a>".toList)
  | some title => ' ' :: ("title=\"".toList ++ (title ++ '"' :: '>' :: (m.text ++ "</a>".toList)))

/-- The element begins with `href`, which ends at the first quote, and goes on with `tail`. -/
private theorem html_eq (m : Markup) :
    m.html = "<a href=\"".toList ++ (m.href ++ '"' :: m.tail) := by
  obtain ⟨href, title, text⟩ := m
  cases title <;> simp [html, tail]

/-- Title and text can be told apart in `tail`. -/
private theorem title_text_eq_of_tail_eq {m m' : Markup} (h : m.Contained) (h' : m'.Contained)
    (heq : m.tail = m'.tail) : m.title = m'.title ∧ m.text = m'.text := by
  obtain ⟨href, title, text⟩ := m
  obtain ⟨href', title', text'⟩ := m'
  -- The first character tells whether there is a title.
  cases title with
  | none =>
    cases title' with
    | none =>
      simp only [tail, List.cons.injEq, true_and] at heq
      exact ⟨rfl, List.append_cancel_right heq⟩
    | some t' => simp [tail] at heq
  | some t =>
    cases title' with
    | none => simp [tail] at heq
    | some t' =>
      simp only [tail, List.cons.injEq, true_and, List.append_cancel_left_eq] at heq
      obtain ⟨rfl, hrest⟩ := Text.append_cons_inj (h.title t rfl) (h'.title t' rfl) heq
      simp only [List.cons.injEq, true_and] at hrest
      exact ⟨rfl, List.append_cancel_right hrest⟩

/-- The parts of an element can be told apart in `html`. -/
theorem eq_of_html_eq {m m' : Markup} (h : m.Contained) (h' : m'.Contained)
    (heq : m.html = m'.html) : m = m' := by
  rw [html_eq, html_eq] at heq
  -- The address ends at the first quote, on both sides at the same place.
  obtain ⟨hhref, htail⟩ := Text.append_cons_inj h.href h'.href (List.append_cancel_left heq)
  obtain ⟨htitle, htext⟩ := title_text_eq_of_tail_eq h h' htail
  obtain ⟨href, title, text⟩ := m
  simp_all

end Markup

/-! ## Anchors -/

/-- The parts that are written for an anchor. -/
def markup (a : Anchor) : Markup :=
  ⟨Html.escapeAttribute a.href, a.title.map Html.escapeAttribute, Html.escapeText a.text⟩

/-- `Anchor.html` is the element with the parts that `markup` gives. -/
private theorem html_markup (a : Anchor) : a.markup.html = a.html := by
  have hend : ['"'] ++ ['>'] = "\">".toList := by decide
  have htitle : ['"'] ++ " title=\"".toList = "\" title=\"".toList := by decide
  obtain ⟨href, title, text⟩ := a
  -- The two differ only in where their literals are cut.
  cases title with
  | none =>
    show _ = "<a href=\"".toList ++ Html.escapeAttribute href ++ ['"'] ++ [] ++ ['>'] ++ _ ++ _
    rw [List.append_nil, List.append_assoc _ ['"'] ['>'], hend]
    rfl
  | some title =>
    show _ = "<a href=\"".toList ++ Html.escapeAttribute href ++ ['"'] ++
      (" title=\"".toList ++ Html.escapeAttribute title ++ ['"']) ++ ['>'] ++ _ ++ _
    rw [← List.append_assoc _ _ ['"'], ← List.append_assoc _ (" title=\"".toList),
      List.append_assoc _ ['"'] (" title=\"".toList), htitle, List.append_assoc _ ['"'] ['>'], hend]
    rfl

private theorem contained_markup (a : Anchor) : a.markup.Contained where
  href := Html.quote_not_mem_escapeAttribute a.href
  title t ht := by
    obtain ⟨title, -, rfl⟩ := Option.map_eq_some_iff.mp ht
    exact Html.quote_not_mem_escapeAttribute title
  text := Html.less_not_mem_escapeText a.text

/-- The parts that `markup` gives stand for the texts of the anchor. -/
private theorem decode_markup (a : Anchor) : a.markup.decode = a := by
  obtain ⟨href, title, text⟩ := a
  cases title <;>
    simp [markup, Markup.decode, Html.decode_escapeAttribute, Html.decode_escapeText]

/-- Different anchors have different elements: `html` loses nothing. -/
theorem html_injective : Function.Injective html := by
  intro a b h
  rw [← html_markup a, ← html_markup b] at h
  rw [← decode_markup a, ← decode_markup b,
    Markup.eq_of_html_eq (contained_markup a) (contained_markup b) h]

end Anchor

/-- An escaped text that comes last is the `tooltip` of a link, unless it is empty. -/
theorem Link.tooltip_build_escapeAttribute (params : List Param) (t : Text) :
    (build (params ++ [⟨some "tooltip".toList, Html.escapeAttribute t⟩])).tooltip =
      (some t).filter (· ≠ []) := by
  have hname : LinkParam.ofName? "tooltip".toList = some .tooltip := by decide
  rw [build, List.foldl_append, List.foldl_cons, List.foldl_nil, Draft.add]
  simp only [hname, Draft.link, Html.decode_escapeAttribute]

/-- The `html` of an anchor is made of parts that hold no character that ends them, and the parts
    stand for the texts of the anchor.  So different anchors have different elements.  And a text
    that `Html.escapeAttribute` has escaped, given as the tooltip of a link, is what its `tooltip`
    says. -/
theorem Anchor.html_keeps_texts :
    (∀ a : Anchor, ∃ m : Markup, m.Contained ∧ m.html = a.html ∧ m.decode = a) ∧
      Function.Injective Anchor.html ∧
      ∀ (params : List Param) (t : Text), t ≠ [] →
        (Link.build (params ++ [⟨some "tooltip".toList, Html.escapeAttribute t⟩])).tooltip =
          some t := by
  refine ⟨fun a => ⟨a.markup, a.contained_markup, a.html_markup, a.decode_markup⟩,
    html_injective, fun params t ht => ?_⟩
  rw [Link.tooltip_build_escapeAttribute]
  simp [ht]

/-- A tooltip with a quote and with what looks like a reference, after an earlier tooltip. -/
theorem Anchor.html_keeps_texts_quoted :
    "\"&amp;".toList ≠ [] ∧
      (Link.build [⟨some "tooltip".toList, "x".toList⟩,
        ⟨some "tooltip".toList, "&quot;&amp;amp;".toList⟩]).tooltip = some "\"&amp;".toList :=
  have hescape : Html.escapeAttribute "\"&amp;".toList = "&quot;&amp;amp;".toList := by decide
  ⟨by decide, hescape ▸ html_keeps_texts.2.2 [⟨some "tooltip".toList, "x".toList⟩]
    "\"&amp;".toList (by decide)⟩

end Facets
