import Facets.Link
import Facets.Proofs.TextLemmas

/-!
# Replaced texts

`Text.replace` puts a text in place of another one, wherever that stands in a text: it takes the
text apart there (`Text.piecesBetween`) and joins the pieces anew.  Where it is taken apart is
pinned by `Text.piecesBetween_eq_iff`: between the pieces there is what was to be replaced, and in
none of them.

`Link.unescapeAmpersands`, which reads a text from its front on, is such a replacement
(`Link.unescapeAmpersands_eq_replace`).
-/

namespace Facets

namespace Text

/-! ## The first place -/

/-- `List.dropInfix?` keeps what it has passed in front of what it finds. -/
private theorem dropInfix?_go (sep t passed : Text) :
    List.dropInfix?.go sep t passed =
      (t.dropInfix? sep).map fun p => (passed.reverse ++ p.1, p.2) := by
  induction t generalizing passed with
  | nil =>
    unfold List.dropInfix? List.dropInfix?.go
    cases sep.isEmpty with
    | true => simp
    | false => rfl
  | cons c t ih =>
    unfold List.dropInfix? List.dropInfix?.go
    cases (c :: t).dropPrefix? sep with
    | some rest => simp
    | none =>
      simp only [ih (c :: passed), ih [c], Option.map_map]
      congr 1
      funext p
      simp

/-- `List.dropInfix?` passes a text that does not begin with `sep` by one character. -/
private theorem dropInfix?_cons {sep t : Text} {c : Char} (h : ¬sep <+: c :: t) :
    (c :: t).dropInfix? sep = (t.dropInfix? sep).map fun p => (c :: p.1, p.2) := by
  have hprefix : (c :: t).dropPrefix? sep = none := by
    rw [Option.eq_none_iff_forall_ne_some]
    intro rest hrest
    obtain ⟨p, hp, hsep⟩ := List.dropPrefix?_eq_some_iff.mp hrest
    rw [beq_iff_eq] at hsep
    exact h ⟨rest, by rw [hp, hsep]⟩
  rw [List.dropInfix?, List.dropInfix?.go, hprefix]
  exact dropInfix?_go sep t [c]

/-- `List.dropInfix?` finds `sep` first where a text begins with it. -/
private theorem dropInfix?_append (sep t : Text) : (sep ++ t).dropInfix? sep = some ([], t) := by
  rw [List.dropInfix?_eq_some_iff]
  exact ⟨⟨sep, rfl, beq_self_eq_true sep⟩, fun p _ _ _ _ => Nat.zero_le p.length⟩

/-- What `List.dropInfix?` gives makes up the text, and `sep` is not found before. -/
private theorem eq_append_of_dropInfix? {sep t a b : Text} (hsep : sep ≠ [])
    (h : t.dropInfix? sep = some (a, b)) : t = a ++ (sep ++ b) ∧ ¬sep <:+: a := by
  obtain ⟨⟨s, ht, hs⟩, hfirst⟩ := List.dropInfix?_eq_some_iff.mp h
  rw [beq_iff_eq] at hs
  subst hs
  refine ⟨by rw [ht, List.append_assoc], ?_⟩
  rintro ⟨x, y, rfl⟩
  -- It would be found behind `x` already.
  have hle := hfirst x s (y ++ (s ++ b)) (by rw [ht]; simp) (beq_self_eq_true s)
  have hlength := List.length_pos_iff.mpr hsep
  simp only [List.length_append] at hle
  omega

/-- `List.dropInfix?` finds nothing just if `sep` does not stand in the text. -/
private theorem dropInfix?_eq_none_iff {sep t : Text} (hsep : sep ≠ []) :
    t.dropInfix? sep = none ↔ ¬sep <:+: t := by
  induction t with
  | nil => simp [List.dropInfix?, List.dropInfix?.go, hsep]
  | cons c t ih =>
    rw [List.infix_cons_iff, not_or]
    by_cases h : sep <+: c :: t
    · obtain ⟨rest, hrest⟩ := h
      rw [← hrest, dropInfix?_append]
      simp
    · rw [dropInfix?_cons h, Option.map_eq_none_iff, ih]
      simp [h]

/-- `List.dropInfix?` passes something in each step. -/
private theorem length_lt_of_dropInfix? {sep t a b : Text} (hsep : sep ≠ [])
    (h : t.dropInfix? sep = some (a, b)) : b.length < t.length := by
  have hlength := List.length_pos_iff.mpr hsep
  rw [(eq_append_of_dropInfix? hsep h).1, List.length_append, List.length_append]
  omega

/-! ## All places -/

/-- The pieces of a text between the places where `sep` stands, found from the front on. -/
def piecesBetween (sep t : Text) : List Text :=
  match h : t.dropInfix? sep with
  | none => [t]
  | some (piece, rest) =>
    if hsep : sep = [] then [t]
    else
      have : rest.length < t.length := length_lt_of_dropInfix? hsep h
      piece :: piecesBetween sep rest
termination_by t.length

/-- A text with `new` wherever `old` stands in it. -/
def replace (old new t : Text) : Text := join new (piecesBetween old t)

/-- `piecesBetween` gives a text without `sep` as one piece. -/
private theorem piecesBetween_of_absent {sep t : Text} (hsep : sep ≠ []) (h : ¬sep <:+: t) :
    piecesBetween sep t = [t] := by
  rw [piecesBetween]
  split
  · rfl
  · rename_i hsome
    rw [(dropInfix?_eq_none_iff hsep).mpr h] at hsome
    cases hsome

/-- The first of `piecesBetween` ends where `sep` is found first. -/
private theorem piecesBetween_of_dropInfix? {sep t piece rest : Text} (hsep : sep ≠ [])
    (h : t.dropInfix? sep = some (piece, rest)) :
    piecesBetween sep t = piece :: piecesBetween sep rest := by
  rw [piecesBetween]
  split
  · rename_i hnone
    rw [h] at hnone
    cases hnone
  · rename_i hsome
    rw [h] at hsome
    cases hsome
    rw [dif_neg hsep]

/-- `sep` in front of a text makes an empty piece. -/
theorem piecesBetween_append {sep : Text} (hsep : sep ≠ []) (t : Text) :
    piecesBetween sep (sep ++ t) = [] :: piecesBetween sep t :=
  piecesBetween_of_dropInfix? hsep (dropInfix?_append sep t)

/-- Any other character in front of a text belongs to its first piece. -/
theorem piecesBetween_cons {sep t : Text} {c : Char} (hsep : sep ≠ []) (h : ¬sep <+: c :: t) :
    piecesBetween sep (c :: t) = (piecesBetween sep t).modifyHead (c :: ·) := by
  cases ht : t.dropInfix? sep with
  | none =>
    have habsent := (dropInfix?_eq_none_iff hsep).mp ht
    rw [piecesBetween_of_absent hsep habsent, piecesBetween_of_absent hsep]
    · rfl
    · rw [List.infix_cons_iff, not_or]
      exact ⟨h, habsent⟩
  -- The first piece is longer by the character, and ends in the same place.
  | some p =>
    obtain ⟨piece, rest⟩ := p
    have hcons : (c :: t).dropInfix? sep = some (c :: piece, rest) := by
      rw [dropInfix?_cons h, ht, Option.map_some]
    rw [piecesBetween_of_dropInfix? hsep hcons, piecesBetween_of_dropInfix? hsep ht]
    rfl

/-- `piecesBetween` always gives a piece. -/
theorem piecesBetween_ne_nil (sep t : Text) : piecesBetween sep t ≠ [] := by
  rw [piecesBetween]
  split
  · exact List.cons_ne_nil _ _
  · split
    · exact List.cons_ne_nil _ _
    · exact List.cons_ne_nil _ _

/-- The `piecesBetween` occurrences of `sep`, joined by it, are the text, and `sep` is in none of
    them. -/
theorem piecesBetween_spec {sep : Text} (hsep : sep ≠ []) (t : Text) :
    join sep (piecesBetween sep t) = t ∧ ∀ p ∈ piecesBetween sep t, ¬sep <:+: p := by
  -- By induction on the length, since what is behind the first `sep` is no part of the text by its
  -- form.
  induction hn : t.length using Nat.strong_induction_on generalizing t with
  | h n ih =>
  cases ht : t.dropInfix? sep with
  | none =>
    have habsent := (dropInfix?_eq_none_iff hsep).mp ht
    rw [piecesBetween_of_absent hsep habsent]
    refine ⟨join_singleton sep t, fun p hp => ?_⟩
    rwa [List.mem_singleton.mp hp]
  | some p =>
    obtain ⟨piece, rest⟩ := p
    obtain ⟨heq, hpiece⟩ := eq_append_of_dropInfix? hsep ht
    obtain ⟨hjoin, hrest⟩ := ih _ (hn ▸ length_lt_of_dropInfix? hsep ht) rest rfl
    rw [piecesBetween_of_dropInfix? hsep ht]
    constructor
    · obtain ⟨p, ps, hps⟩ := List.exists_cons_of_ne_nil (piecesBetween_ne_nil sep rest)
      rw [hps] at hjoin ⊢
      rw [join_cons_cons, hjoin, heq, List.append_assoc]
    · exact List.forall_mem_cons.mpr ⟨hpiece, hrest⟩

/-! ### Pieces that cannot overlap -/

/-- What is behind a piece without `sep` is the first `sep`, if this holds its first character only
    once and so cannot begin in the piece. -/
private theorem dropInfix?_of_absent {s : Char} {ss a : Text} (hs : s ∉ ss)
    (ha : ¬s :: ss <:+: a) (b : Text) :
    (a ++ (s :: ss ++ b)).dropInfix? (s :: ss) = some (a, b) := by
  induction a with
  | nil => exact dropInfix?_append (s :: ss) b
  | cons c a ih =>
    rw [List.infix_cons_iff, not_or] at ha
    have hprefix : ¬s :: ss <+: c :: a ++ (s :: ss ++ b) := by
      rintro ⟨r, hr⟩
      rw [List.append_eq_append_iff] at hr
      rcases hr with ⟨x, hx, -⟩ | ⟨x, hx, hr⟩
      · exact ha.1 ⟨x, hx.symm⟩
      cases x with
      | nil => exact ha.1 ⟨[], by rw [hx]; simp⟩
      | cons d x =>
        -- The end of `sep` would be the beginning of the one behind the piece.
        obtain ⟨rfl, -⟩ := List.cons.inj hr
        obtain ⟨-, rfl⟩ := List.cons.inj hx
        exact hs (List.mem_append_right a List.mem_cons_self)
    rw [List.cons_append] at hprefix ⊢
    rw [dropInfix?_cons hprefix, ih ha.2, Option.map_some]

/-- For such a `sep` there is only one way to take a text apart, that of `piecesBetween`. -/
theorem piecesBetween_eq_iff {s : Char} {ss t : Text} (hs : s ∉ ss) {ps : List Text} :
    piecesBetween (s :: ss) t = ps ↔
      ps ≠ [] ∧ join (s :: ss) ps = t ∧ ∀ p ∈ ps, ¬s :: ss <:+: p := by
  have hsep : s :: ss ≠ [] := List.cons_ne_nil s ss
  constructor
  · rintro rfl
    exact ⟨piecesBetween_ne_nil _ t, piecesBetween_spec hsep t⟩
  · rintro ⟨hne, rfl, hps⟩
    induction ps with
    | nil => exact absurd rfl hne
    | cons p ps ih =>
      obtain ⟨hp, hps⟩ := List.forall_mem_cons.mp hps
      cases ps with
      | nil => rw [join_singleton, piecesBetween_of_absent hsep hp]
      -- What is joined behind the first piece begins with `sep`, which is found there first.
      | cons q ps =>
        have hfirst := dropInfix?_of_absent hs hp (join (s :: ss) (q :: ps))
        rw [join_cons_cons, List.append_assoc, piecesBetween_of_dropInfix? hsep hfirst,
          ih (List.cons_ne_nil q ps) hps]

/-! ## Replacing -/

/-- `replace` replaces `old` where a text begins with it. -/
theorem replace_append {old : Text} (hold : old ≠ []) (new t : Text) :
    replace old new (old ++ t) = new ++ replace old new t := by
  obtain ⟨p, ps, hps⟩ := List.exists_cons_of_ne_nil (piecesBetween_ne_nil old t)
  rw [replace, replace, piecesBetween_append hold, hps, join_cons_cons, List.nil_append]

/-- `replace` leaves another character at the beginning alone. -/
theorem replace_cons {old t : Text} {c : Char} (hold : old ≠ []) (h : ¬old <+: c :: t)
    (new : Text) : replace old new (c :: t) = c :: replace old new t := by
  obtain ⟨p, ps, hps⟩ := List.exists_cons_of_ne_nil (piecesBetween_ne_nil old t)
  rw [replace, replace, piecesBetween_cons hold h, hps, List.modifyHead_cons]
  cases ps with
  | nil => rw [join_singleton, join_singleton]
  | cons q ps =>
    rw [join_cons_cons, join_cons_cons, List.cons_append, List.cons_append]

/-- There is nothing to `replace` in the empty text. -/
@[simp]
theorem replace_nil {old : Text} (hold : old ≠ []) (new : Text) : replace old new [] = [] := by
  have habsent : ¬old <:+: [] := fun h => hold (List.eq_nil_of_infix_nil h)
  rw [replace, piecesBetween_of_absent hold habsent, join_singleton]

end Text

/-- `Link.unescapeAmpersands` reads a text from its front on, and puts `&` wherever `&amp;` stands
    in it. -/
theorem Link.unescapeAmpersands_eq_replace (t : Text) :
    unescapeAmpersands t = Text.replace "&amp;".toList "&".toList t := by
  have hold : "&amp;".toList ≠ [] := by decide
  fun_induction unescapeAmpersands t with
  | case1 cs ih =>
    rw [ih]
    exact (Text.replace_append hold "&".toList cs).symm
  -- The reader passes a character just where the entity does not stand.
  | case2 c cs hne ih =>
    have hprefix : ¬"&amp;".toList <+: c :: cs := by
      rintro ⟨r, hr⟩
      obtain ⟨hc, hcs⟩ := List.cons.inj hr
      exact hne r hc.symm hcs.symm
    rw [ih, Text.replace_cons hold hprefix]
  | case3 => rw [Text.replace_nil hold]

end Facets
