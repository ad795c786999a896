import Facets.Proofs.TextLemmas
import Facets.Filter.Segment
import Mathlib.Data.List.TakeWhile

/-!
# Segments and the texts they are found in

What the scanner does at the beginning of a text: it gives the segment of a closed group
(`next_group`), passes over a `)` that closes nothing (`next_stray`) and finds nothing where no
`)` is left (`next_of_close_not_mem`).  Every text begins in one of these ways, so a statement on
texts can be proved along the way the scanner takes (`scan_induction`).  No segment contains the
parentheses that bound its parts, wherever it was found (`mem_segments`).

Each is a statement on one step of the scanner first, and from it on all the segments that are
left.
-/

namespace Facets.Scanner

theorem isParen_eq_false {c : Char} : isParen c = false ↔ c ≠ '(' ∧ c ≠ ')' := by
  simp [isParen]

/-- A parenthesis is one byte. -/
private theorem utf8Size_of_isParen {c : Char} (hc : isParen c = true) : c.utf8Size = 1 := by
  simp only [isParen, Bool.or_eq_true, beq_iff_eq] at hc
  rcases hc with rfl | rfl <;> decide

theorem byteLength_open_cons (t : Text) :
    Text.byteLength ('(' :: t) = Text.byteLength t + 1 := by
  rw [Text.byteLength, utf8Size_of_isParen rfl, Nat.add_comm]

theorem byteLength_close_cons (t : Text) :
    Text.byteLength (')' :: t) = Text.byteLength t + 1 := by
  rw [Text.byteLength, utf8Size_of_isParen rfl, Nat.add_comm]

/-! ## One step -/

/-- A text is cut at its first parenthesis. -/
private theorem span_paren {u : Text} (hu : ∀ c ∈ u, isParen c = false) {p : Char}
    (hp : isParen p = true) (rest : Text) :
    (u ++ p :: rest).takeWhile (fun c => !isParen c) = u ∧
      (u ++ p :: rest).dropWhile (fun c => !isParen c) = p :: rest := by
  have hn : ∀ c ∈ u, (!isParen c) = true := by simpa using hu
  rw [List.takeWhile_append_of_pos hn, List.dropWhile_append_of_pos hn]
  simp [hp]

/-- At a closed group `next` gives its parts and stands after it. -/
theorem next_group {name settings : Text} (hname : ∀ c ∈ name, isParen c = false)
    (hsettings : ')' ∉ settings) (rest : Text) (pos : Nat) :
    next ⟨name ++ '(' :: (settings ++ ')' :: rest), pos⟩ =
      (some ⟨name, settings, pos⟩,
        ⟨rest, pos + Text.byteLength name + 1 + Text.byteLength settings + 1⟩) := by
  obtain ⟨htake, hdrop⟩ := span_paren hname (p := '(') rfl (settings ++ ')' :: rest)
  -- The first parenthesis opens the group, and the first `)` behind it closes it.
  rw [next]
  split
  · rename_i h
    simp [hdrop] at h
  · rename_i c cs h
    rw [hdrop] at h
    injection h with hc hcs
    subst hc hcs
    simp [Text.cut?_append hsettings, htake]

/-- `next` passes over a `)` before any `(`, and over what stands in front of it. -/
theorem next_close {u : Text} (hu : ∀ c ∈ u, isParen c = false) (rest : Text) (pos : Nat) :
    next ⟨u ++ ')' :: rest, pos⟩ = next ⟨rest, pos + Text.byteLength u + 1⟩ := by
  obtain ⟨htake, hdrop⟩ := span_paren hu (p := ')') rfl rest
  rw [next]
  split
  · rename_i h
    simp [hdrop] at h
  · rename_i c cs h
    rw [hdrop] at h
    injection h with hc hcs
    subst hc hcs
    simp [htake]

/-- `next` passes over several such `)` at once. -/
theorem next_stray {u : Text} (hu : '(' ∉ u) (rest : Text) (pos : Nat) :
    next ⟨u ++ ')' :: rest, pos⟩ = next ⟨rest, pos + Text.byteLength u + 1⟩ := by
  cases hcut : Text.cut? ')' u with
  | none =>
    have hclose : ')' ∉ u := Text.cut?_eq_none_iff.mp hcut
    refine next_close (fun c hc => isParen_eq_false.mpr ⟨?_, ?_⟩) rest pos
    · exact fun e => hu (e ▸ hc)
    · exact fun e => hclose (e ▸ hc)
  | some p =>
    -- The first `)` of `u` is passed over, and what is left of `u` is shorter.
    obtain ⟨a, b⟩ := p
    obtain ⟨rfl, ha⟩ := Text.append_of_cut? hcut
    rw [List.mem_append, List.mem_cons, not_or, not_or] at hu
    have hparen : ∀ c ∈ a, isParen c = false := fun c hc =>
      isParen_eq_false.mpr ⟨fun e => hu.1 (e ▸ hc), fun e => ha (e ▸ hc)⟩
    have hlt : b.length < (a ++ ')' :: b).length := by
      rw [List.length_append, List.length_cons]
      omega
    have hlen : pos + Text.byteLength (a ++ ')' :: b) + 1 =
        pos + Text.byteLength a + 1 + Text.byteLength b + 1 := by
      rw [Text.byteLength_append, byteLength_close_cons]
      omega
    rw [List.append_assoc, List.cons_append, next_close hparen, next_stray hu.2.2, hlen]
termination_by u.length

/-- In a text without `)` nothing is found by `next`, since nothing in it is closed. -/
theorem next_of_close_not_mem {t : Text} (h : ')' ∉ t) (pos : Nat) :
    next ⟨t, pos⟩ = (none, finished ⟨t, pos⟩) := by
  rw [next]
  split
  · rfl
  · rename_i c cs hd
    -- What is left after the name is still a part of the text, without a `)`.
    have hsub : ∀ x ∈ c :: cs, x ∈ t := fun x hx => by
      rw [← hd] at hx
      exact (List.dropWhile_sublist _).mem hx
    have hc : c ≠ ')' := fun e => h (e ▸ hsub c List.mem_cons_self)
    have hcut : Text.cut? ')' cs = none :=
      Text.cut?_eq_none_iff.mpr fun hm => h (hsub _ (List.mem_cons_of_mem c hm))
    simp [hc, hcut]

/-- The name of a segment that `next` gives has no parenthesis, and its settings have no closing
    one. -/
private theorem parts_of_next {s s' : Scanner} {g : Segment} (h : s.next = (some g, s')) :
    (∀ c ∈ g.name, isParen c = false) ∧ ')' ∉ g.settings := by
  fun_induction next s with
  | case1 => cases h
  | case2 s name cs hd hlt ih =>
    -- A stray `)` was passed over.
    exact ih h
  | case3 => cases h
  | case4 s name c cs hd hc settings rest hcut =>
    cases h
    refine ⟨fun x hx => ?_, (Text.append_of_cut? hcut).2⟩
    simpa using List.mem_takeWhile_imp hx

/-! ## The ways in which a text begins -/

/-- Either no `)` is left, or the first parenthesis is a `)`, or it opens a closed group. -/
theorem scan_cases (t : Text) :
    ')' ∉ t ∨
      (∃ u rest, (∀ c ∈ u, isParen c = false) ∧ t = u ++ ')' :: rest) ∨
      ∃ name settings rest, (∀ c ∈ name, isParen c = false) ∧ ')' ∉ settings ∧
        t = name ++ '(' :: (settings ++ ')' :: rest) := by
  have hsplit := List.takeWhile_append_dropWhile (p := fun c => !isParen c) (l := t)
  have hname : ∀ c ∈ t.takeWhile (fun c => !isParen c), isParen c = false := fun c hc => by
    simpa using List.mem_takeWhile_imp hc
  have hclose : ')' ∉ t.takeWhile (fun c => !isParen c) := fun hm => nomatch hname _ hm
  cases hd : t.dropWhile (fun c => !isParen c) with
  | nil =>
    rw [hd, List.append_nil] at hsplit
    exact .inl (hsplit ▸ hclose)
  | cons c cs =>
    have hhead := List.head?_dropWhile_not (fun c => !isParen c) t
    rw [hd] at hhead hsplit
    have hparen : isParen c = true := by simpa using hhead
    simp only [isParen, Bool.or_eq_true, beq_iff_eq] at hparen
    rcases hparen with rfl | rfl
    · cases hcut : Text.cut? ')' cs with
      | none =>
        -- The group is not closed, so no `)` stands before its `(` or after it.
        have hcs : ')' ∉ cs := Text.cut?_eq_none_iff.mp hcut
        left
        rw [← hsplit]
        simp [hclose, hcs]
      | some p =>
        obtain ⟨settings, rest⟩ := p
        obtain ⟨rfl, hsettings⟩ := Text.append_of_cut? hcut
        exact .inr (.inr ⟨_, settings, rest, hname, hsettings, hsplit.symm⟩)
    · exact .inr (.inl ⟨_, cs, hname, hsplit.symm⟩)

/-- What holds where no `)` is left, and is kept when a `)` or a closed group is put in front, holds
    of every text, by `scan_cases`. -/
@[elab_as_elim]
theorem scan_induction {P : Text → Prop} (rest : ∀ t, ')' ∉ t → P t)
    (close : ∀ u t, (∀ c ∈ u, isParen c = false) → P t → P (u ++ ')' :: t))
    (group : ∀ name settings t, (∀ c ∈ name, isParen c = false) → ')' ∉ settings → P t →
      P (name ++ '(' :: (settings ++ ')' :: t))) (t : Text) : P t := by
  -- What stands behind a `)` is no part of the text by its form, only a shorter text.
  induction hn : t.length using Nat.strongRecOn generalizing t with
  | ind n ih =>
    subst hn
    rcases scan_cases t with h | ⟨u, t', hu, rfl⟩ | ⟨name, settings, t', hname, hsettings, rfl⟩
    · exact rest t h
    · exact close u t' hu (ih _ (by simp; omega) t' rfl)
    · exact group name settings t' hname hsettings (ih _ (by simp; omega) t' rfl)

/-! ## All the segments that are left -/

/-- The segment that `next` finds comes first among the `segments`. -/
theorem segments_of_next {s s' : Scanner} {g : Segment} (h : s.next = (some g, s')) :
    s.segments = g :: s'.segments := by
  rw [segments]
  split
  · rename_i h'
    rw [h] at h'
    cases h'
  · rename_i h'
    rw [h] at h'
    cases h'
    rfl

/-- Where `next` finds nothing, no `segments` are left. -/
theorem segments_of_next_eq_none {s : Scanner} (h : s.next.1 = none) : s.segments = [] := by
  rw [segments]
  split
  · rfl
  · rename_i h'
    rw [h'] at h
    cases h

/-- A text without `)` has no `segments`. -/
theorem segments_of_close_not_mem {t : Text} (h : ')' ∉ t) (pos : Nat) :
    (Scanner.mk t pos).segments = [] :=
  segments_of_next_eq_none (by rw [next_of_close_not_mem h])

/-- Which `segments` are left depends only on what `next` finds. -/
theorem segments_congr {s s' : Scanner} (h : s.next = s'.next) : s.segments = s'.segments := by
  cases hnext : s'.next with
  | mk found s₁ =>
    cases found with
    | none =>
      have hs : s.next.1 = none := by rw [h, hnext]
      have hs' : s'.next.1 = none := by rw [hnext]
      rw [segments_of_next_eq_none hs, segments_of_next_eq_none hs']
    | some g => rw [segments_of_next (h.trans hnext), segments_of_next hnext]

/-- In none of the `segments` the name has a parenthesis, or the settings have a closing one. -/
theorem mem_segments {s : Scanner} {g : Segment} (h : g ∈ s.segments) :
    (∀ c ∈ g.name, isParen c = false) ∧ ')' ∉ g.settings := by
  fun_induction segments s with
  | case1 => cases h
  | case2 s g' s' hnext hlt ih =>
    rcases List.mem_cons.mp h with rfl | h
    · exact parts_of_next hnext
    · exact ih h

end Facets.Scanner
