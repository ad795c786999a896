import Facets.Proofs.Segmentation

/-!
# The grammar of the scanner

A text can be divided in just one way into groups `name(settings)`, each with junk in front of it,
and a tail in which no group is closed (`Text.Divides`, `Text.Divides.unique`).  The scanner gives
the segments of these groups in their order (`Segmentation.segments_eq`), each with the number of
bytes that stand before its name, and nothing after them (`Scanner.next_afterCalls`).

The division is unique for two reasons.  A group can be read off the front of a text in one way
only (`Group.text_append_inj`), and no tail begins with a group (`Group.not_closesNoGroup`).
-/

namespace Facets

/-! ## Divisions of a text -/

/-- A text in which no group is closed: no `(` in it is followed later by a `)`. -/
def Text.ClosesNoGroup (t : Text) : Prop :=
  ∀ before after, t = before ++ '(' :: after → ')' ∉ after

/-- A text consists of some groups and of a tail in which no group is closed. -/
structure Text.Divides (t : Text) (gs : List Group) (tail : Text) : Prop where
  text_eq : gs.flatMap Group.text ++ tail = t
  closesNoGroup_tail : tail.ClosesNoGroup

namespace Text

/-- A text that `IsJunk` does not end in one without `)`. -/
private theorem IsJunk.eq_nil_of_append {u v : Text} (h : (u ++ v).IsJunk)
    (hv : ')' ∉ v) : v = [] := by
  rcases h.2 with hnil | hlast
  · exact (List.append_eq_nil_iff.mp hnil).2
  · by_contra hne
    rw [List.getLast?_append_of_ne_nil u hne] at hlast
    exact hv (List.mem_of_getLast? hlast)

/-- Junk and what follows it without `)` can be told apart. -/
private theorem IsJunk.append_inj {u v a b : Text} (hu : u.IsJunk) (hv : v.IsJunk) (ha : ')' ∉ a)
    (hb : ')' ∉ b) (h : u ++ a = v ++ b) : u = v ∧ a = b := by
  -- One of the two pieces of junk is the longer one, and it would end in a part of `a` or `b`.
  rcases List.append_eq_append_iff.mp h with ⟨c, rfl, rfl⟩ | ⟨c, rfl, rfl⟩
  · obtain rfl := hv.eq_nil_of_append fun hm => ha (List.mem_append_left b hm)
    simp
  · obtain rfl := hu.eq_nil_of_append fun hm => hb (List.mem_append_left a hm)
    simp

/-- Junk closes no group, nor does what follows it, if there is no `)` in that. -/
private theorem IsJunk.closesNoGroup_append {u rest : Text} (hu : u.IsJunk) (hrest : ')' ∉ rest) :
    (u ++ rest).ClosesNoGroup := by
  intro before after heq
  rcases List.append_eq_append_iff.mp heq with ⟨c, rfl, rfl⟩ | ⟨c, rfl, hc⟩
  · exact fun hm => hrest (List.mem_append_right c (List.mem_cons_of_mem _ hm))
  · -- The `(` would stand in the junk, unless it is the first character after it.
    cases c with
    | nil =>
      rw [List.nil_append] at hc
      exact fun hm => hrest (hc ▸ List.mem_cons_of_mem _ hm)
    | cons x c =>
      rw [List.cons_append, List.cons.injEq] at hc
      exact absurd (by simp [← hc.1]) hu.1

end Text

namespace Group

/-- No `(` stands in front of the one that opens a group. -/
private theorem open_not_mem_front (g : Group) : '(' ∉ g.junk ++ g.name := by
  rw [List.mem_append, not_or]
  exact ⟨g.isJunk_junk.1, fun hm => nomatch g.isParen_name _ hm⟩

/-- A group is read off the front of a text in one way only, since `Group.text` can be told from
    what follows. -/
theorem text_append_inj {g g' : Group} {t t' : Text} (h : g.text ++ t = g'.text ++ t') :
    g = g' ∧ t = t' := by
  rw [text_append, text_append, ← List.append_assoc, ← List.append_assoc] at h
  -- The first `(` and the first `)` after it stand in the same places on both sides.
  obtain ⟨hfront, hrest⟩ := Text.append_cons_inj g.open_not_mem_front g'.open_not_mem_front h
  obtain ⟨hsettings, ht⟩ :=
    Text.append_cons_inj g.close_not_mem_settings g'.close_not_mem_settings hrest
  have hclose : ∀ g : Group, ')' ∉ g.name := fun g hm => nomatch g.isParen_name _ hm
  obtain ⟨hjunk, hname⟩ :=
    g.isJunk_junk.append_inj g'.isJunk_junk (hclose g) (hclose g') hfront
  cases g
  cases g'
  cases hjunk
  cases hname
  cases hsettings
  exact ⟨rfl, ht⟩

/-- No tail begins with `Group.text`, for the group is closed. -/
theorem not_closesNoGroup (g : Group) (t : Text) : ¬(g.text ++ t).ClosesNoGroup := by
  intro h
  rw [text_append, ← List.append_assoc] at h
  exact h _ _ rfl (by simp)

end Group

namespace Text.Divides

/-- `Text.Divides` holds of one division of a text only. -/
theorem unique {t : Text} {gs gs' : List Group} {tail tail' : Text} (h : t.Divides gs tail)
    (h' : t.Divides gs' tail') : gs' = gs ∧ tail' = tail := by
  obtain ⟨rfl, htail⟩ := h
  obtain ⟨heq, htail'⟩ := h'
  -- By induction on one division; at each end of it the other one must end, too.
  induction gs generalizing gs' with
  | nil =>
    cases gs' with
    | nil => exact ⟨rfl, heq⟩
    | cons g' gs' =>
      rw [List.flatMap_cons, List.append_assoc] at heq
      have htail : (g'.text ++ (gs'.flatMap Group.text ++ tail')).ClosesNoGroup := heq ▸ htail
      exact absurd htail (g'.not_closesNoGroup _)
  | cons g gs ih =>
    rw [List.flatMap_cons, List.append_assoc] at heq
    cases gs' with
    | nil =>
      have htail' : (g.text ++ (gs.flatMap Group.text ++ tail)).ClosesNoGroup := heq ▸ htail'
      exact absurd htail' (g.not_closesNoGroup _)
    | cons g' gs' =>
      rw [List.flatMap_cons, List.append_assoc] at heq
      obtain ⟨rfl, hrest⟩ := Group.text_append_inj heq
      obtain ⟨rfl, rfl⟩ := ih hrest
      exact ⟨rfl, rfl⟩

end Text.Divides

/-- A `Segmentation` is a division, its tail being the junk after the groups and the rest. -/
private theorem Segmentation.divides {t : Text} (d : Segmentation t) :
    t.Divides d.groups (d.junk ++ d.rest) where
  text_eq := d.text_eq
  closesNoGroup_tail := d.isJunk_junk.closesNoGroup_append d.close_not_mem_rest

/-! ## The segments of the groups -/

/-- The segments of some groups, of which the first one stands after some text. -/
def Group.segments : (before : Text) → List Group → List Segment
  | _, [] => []
  | before, g :: gs =>
    ⟨g.name, g.settings, Text.byteLength (before ++ g.junk)⟩ :: segments (before ++ g.text) gs

/-- `Scanner.segments` are those of the groups, if the scanner finds nothing after them. -/
private theorem Scanner.segments_groups (gs : List Group) {t : Text}
    (ht : ∀ pos, (Scanner.mk t pos).segments = []) (before : Text) :
    (Scanner.mk (gs.flatMap Group.text ++ t) (Text.byteLength before)).segments =
      Group.segments before gs := by
  induction gs generalizing before with
  | nil => exact ht _
  | cons g gs ih =>
    -- The scanner counts part by part, and the number of bytes is that of the whole group.
    have hlen : Text.byteLength (before ++ g.text) =
        Text.byteLength (before ++ g.junk) + Text.byteLength g.name + 1 +
          Text.byteLength g.settings + 1 := by
      simp only [Group.text, Text.byteLength_append, byteLength_open_cons, byteLength_close_cons,
        Text.byteLength_nil]
      omega
    rw [List.flatMap_cons, List.append_assoc, g.text_append, Scanner.segments_junk g.isJunk_junk,
      ← Text.byteLength_append,
      Scanner.segments_of_next
        (Scanner.next_group g.isParen_name g.close_not_mem_settings _ _), ← hlen, ih]
    rfl

/-- `Segment.ofText` gives the segments of the groups of a text. -/
theorem Segmentation.segments_eq {t : Text} (d : Segmentation t) :
    Segment.ofText t = Group.segments [] d.groups := by
  have hend : ∀ pos, (Scanner.mk (d.junk ++ d.rest) pos).segments = [] := fun pos => by
    rw [Scanner.segments_junk d.isJunk_junk,
      Scanner.segments_of_close_not_mem d.close_not_mem_rest]
  have h := Scanner.segments_groups d.groups hend []
  rwa [d.text_eq] at h

/-! ## Calls of the scanner -/

namespace Scanner

/-- A scanner after some calls of `next`, whatever they gave. -/
def afterCalls : Nat → Scanner → Scanner
  | 0, s => s
  | n + 1, s => afterCalls n s.next.2

/-- A scanner of which `next` finds nothing is at the end. -/
private theorem rest_of_next_eq_none {s : Scanner} (h : s.next.1 = none) : s.next.2.rest = [] := by
  fun_induction next s with
  | case1 => rfl
  | case2 s name cs hd hlt ih => exact ih h
  | case3 => rfl
  | case4 => cases h

/-- `next` gives the first segment that is left. -/
private theorem next_fst (s : Scanner) : s.next.1 = s.segments.head? := by
  cases hnext : s.next with
  | mk found s' =>
    cases found with
    | none => rw [segments_of_next_eq_none (by rw [hnext])]; rfl
    | some g => rw [segments_of_next hnext]; rfl

/-- After `next` the other segments are left. -/
private theorem segments_next_snd (s : Scanner) : s.next.2.segments = s.segments.tail := by
  cases hnext : s.next with
  | mk found s' =>
    cases found with
    | none =>
      have hnone : s.next.1 = none := by rw [hnext]
      -- Where nothing is found, nothing is left of the text, and so no segment.
      have hrest := rest_of_next_eq_none hnone
      rw [hnext] at hrest
      obtain ⟨rest, pos⟩ := s'
      cases hrest
      rw [segments_of_next_eq_none hnone, segments_of_close_not_mem List.not_mem_nil]
      rfl
    | some g => rw [segments_of_next hnext]; rfl

/-- Each call of `next` gives the next segment, and after the last one there is none at any call. -/
theorem next_afterCalls (n : Nat) (s : Scanner) : (afterCalls n s).next.1 = s.segments[n]? := by
  induction n generalizing s with
  | zero => rw [afterCalls, next_fst, List.head?_eq_getElem?]
  | succ n ih => rw [afterCalls, ih, segments_next_snd, List.getElem?_tail]

/-- `next` passes over some text and counts its bytes. -/
private theorem exists_passed (t : Text) : ∀ pos, ∃ passed,
    passed ++ (next ⟨t, pos⟩).2.rest = t ∧
      (next ⟨t, pos⟩).2.position = pos + Text.byteLength passed := by
  -- A `)` that is passed over changes the position, so the induction is for all positions at once.
  induction t using scan_induction with
  | rest t h =>
    intro pos
    rw [next_of_close_not_mem h]
    exact ⟨t, List.append_nil t, rfl⟩
  | close u t hu ih =>
    intro pos
    rw [next_close hu]
    obtain ⟨passed, hrest, hpos⟩ := ih (pos + Text.byteLength u + 1)
    refine ⟨u ++ ')' :: passed, by simp [hrest], ?_⟩
    rw [hpos, Text.byteLength_append, byteLength_close_cons]
    omega
  | group name settings t hname hsettings ih =>
    intro pos
    rw [next_group hname hsettings]
    refine ⟨name ++ '(' :: (settings ++ [')']), by simp, ?_⟩
    simp only [Text.byteLength_append, byteLength_open_cons, byteLength_close_cons,
      Text.byteLength_nil]
    omega

/-- After any calls a scanner stands between two characters of its text, and its `position` is the
    number of bytes in front of it. -/
private theorem exists_read (n : Nat) (t : Text) (pos : Nat) : ∃ read,
    read ++ (afterCalls n ⟨t, pos⟩).rest = t ∧
      (afterCalls n ⟨t, pos⟩).position = pos + Text.byteLength read := by
  induction n generalizing t pos with
  | zero => exact ⟨[], rfl, rfl⟩
  | succ n ih =>
    obtain ⟨passed, hrest, hpos⟩ := exists_passed t pos
    obtain ⟨read, hread, hend⟩ := ih (next ⟨t, pos⟩).2.rest (next ⟨t, pos⟩).2.position
    refine ⟨passed ++ read, ?_, ?_⟩
    · rw [List.append_assoc]
      exact (congrArg (passed ++ ·) hread).trans hrest
    · rw [Text.byteLength_append, ← Nat.add_assoc, ← hpos]
      exact hend

end Scanner

/-- Each text is divided into groups and a tail in one way only.  `Segment.ofText` gives the
    segments of the groups, and `Scanner.next` one at each call, each with the number of bytes in
    front of its name; at every call after these it gives none.  At any time the scanner stands
    between two characters of the text. -/
theorem Segment.ofText_grammar (t : Text) :
    ∃ gs tail, t.Divides gs tail ∧
      (∀ gs' tail', t.Divides gs' tail' → gs' = gs ∧ tail' = tail) ∧
      Segment.ofText t = Group.segments [] gs ∧
      (∀ n, (Scanner.afterCalls n ⟨t, 0⟩).next.1 = (Group.segments [] gs)[n]?) ∧
      ∀ n, ∃ read, read ++ (Scanner.afterCalls n ⟨t, 0⟩).rest = t ∧
        (Scanner.afterCalls n ⟨t, 0⟩).position = Text.byteLength read := by
  obtain ⟨d⟩ := Segmentation.nonempty t
  refine ⟨d.groups, d.junk ++ d.rest, d.divides, fun _ _ h => d.divides.unique h, d.segments_eq,
    fun n => ?_, fun n => ?_⟩
  · rw [← d.segments_eq]
    exact Scanner.next_afterCalls n ⟨t, 0⟩
  · have h := Scanner.exists_read n t 0
    simpa only [Nat.zero_add] using h

end Facets
