import Facets.Text.Blank
import Mathlib.Data.List.DropRight

/-!
# Pieces and trimmed texts

Lemmas on the ways in which the readers of this library take a text apart: at the first separator
(`Text.cut?`), at every separator (`Text.pieces`, undone by `Text.join`), at its end
(`Text.trimEnd`), and at both ends (`Text.trim`).

`pieces` is `List.splitOn`, so what the standard library knows of splitting carries over.
-/

namespace Facets.Text

/-- A text is cut at its first separator in one way only, as `cut?` does it. -/
theorem append_cons_inj {sep : Char} {a b r s : Text} (ha : sep ∉ a) (hb : sep ∉ b)
    (h : a ++ sep :: r = b ++ sep :: s) : a = b ∧ r = s := by
  have hcut : (some (a, r) : Option (Text × Text)) = some (b, s) := by
    rw [← cut?_append ha r, h, cut?_append hb]
  simpa using hcut

/-! ## Pieces -/

/-- `pieces` is the standard library's `splitOn`. -/
private theorem pieces_eq_splitOn (sep : Char) (t : Text) : pieces sep t = t.splitOn sep := by
  induction t with
  | nil => rfl
  | cons c cs ih =>
    rw [List.splitOn_cons_eq_if_modifyHead, ← ih]
    simp only [pieces, beq_iff_eq]
    split
    · rfl
    · -- There is always a first piece, which the character goes to.
      cases hp : pieces sep cs with
      | nil => exact absurd hp (pieces_ne_nil sep cs)
      | cons p ps => rfl

/-- `pieces` gives a text without the separator as one piece. -/
theorem pieces_of_not_mem {sep : Char} {t : Text} (h : sep ∉ t) : pieces sep t = [t] := by
  rw [pieces_eq_splitOn]
  exact List.splitOn_eq_singleton h

/-- A separator ends one of the `pieces` and begins another. -/
private theorem pieces_append_cons (sep : Char) (a b : Text) :
    pieces sep (a ++ sep :: b) = pieces sep a ++ pieces sep b := by
  simp only [pieces_eq_splitOn]
  exact List.splitOn_append_cons_self a b

/-- `join` puts the separator between two parts. -/
theorem join_cons_cons (sep a b : Text) (ps : List Text) :
    join sep (a :: b :: ps) = a ++ sep ++ join sep (b :: ps) :=
  List.intercalate_cons_cons

@[simp] theorem join_nil (sep : Text) : join sep [] = [] := List.intercalate_nil

@[simp] theorem join_singleton (sep a : Text) : join sep [a] = a := List.intercalate_singleton

/-- `pieces` takes parts that are joined with the separator apart, one after the other. -/
theorem pieces_join (sep : Char) {ps : List Text} (h : ps ≠ []) :
    pieces sep (join [sep] ps) = ps.flatMap (pieces sep) := by
  induction ps with
  | nil => exact absurd rfl h
  | cons a ps ih =>
    cases ps with
    | nil => simp
    | cons b ps =>
      rw [join_cons_cons, List.append_assoc, List.singleton_append, pieces_append_cons,
        ih (List.cons_ne_nil b ps)]
      rfl

/-- `pieces` gives back parts without the separator that `join` has joined. -/
theorem pieces_join_of_not_mem {sep : Char} {ps : List Text} (hne : ps ≠ [])
    (h : ∀ p ∈ ps, sep ∉ p) : pieces sep (join [sep] ps) = ps := by
  rw [pieces_eq_splitOn]
  exact List.splitOn_intercalate sep h hne

/-- The separator is in none of the `pieces`. -/
theorem not_mem_of_mem_pieces {sep : Char} {t p : Text} (h : p ∈ pieces sep t) : sep ∉ p := by
  induction t generalizing p with
  | nil =>
    simp only [pieces, List.mem_singleton] at h
    simp [h]
  | cons c cs ih =>
    rw [pieces_eq_splitOn, List.splitOn_cons_eq_if_modifyHead, ← pieces_eq_splitOn] at h
    split at h
    · -- A separator begins with an empty piece.
      rcases List.mem_cons.mp h with rfl | h
      · simp
      · exact ih h
    · -- The character is none, and it goes to the first piece of the rest.
      rename_i hc
      cases hp : pieces sep cs with
      | nil => exact absurd hp (pieces_ne_nil sep cs)
      | cons q qs =>
        rw [hp, List.modifyHead_cons] at h
        rw [hp] at ih
        rcases List.mem_cons.mp h with rfl | h
        · have hq := ih List.mem_cons_self
          have hc' : sep ≠ c := fun e => hc (by simp [e])
          simp [hq, hc']
        · exact ih (List.mem_cons_of_mem q h)

/-- `join` puts the first part first, and each other one after a separator. -/
theorem join_cons (sep a : Text) (ps : List Text) :
    join sep (a :: ps) = a ++ ps.flatMap fun p => sep ++ p := by
  induction ps generalizing a with
  | nil => simp
  | cons b ps ih => rw [join_cons_cons, ih, List.flatMap_cons, List.append_assoc, List.append_assoc]

/-- What is in a part is in what `join` gives. -/
private theorem mem_join (sep : Text) {ps : List Text} {p : Text} {c : Char} (hp : p ∈ ps)
    (hc : c ∈ p) : c ∈ join sep ps := by
  induction ps with
  | nil => cases hp
  | cons a ps ih =>
    cases ps with
    | nil =>
      rw [List.mem_singleton] at hp
      rwa [join_singleton, ← hp]
    | cons b ps =>
      rw [join_cons_cons]
      rcases List.mem_cons.mp hp with rfl | hp
      · simp [hc]
      · simp [ih hp]

/-- What is neither in the separator nor in a part is not in what `join` gives. -/
theorem not_mem_join {sep : Text} {ps : List Text} {c : Char} (hsep : c ∉ sep)
    (hps : ∀ p ∈ ps, c ∉ p) : c ∉ join sep ps := by
  induction ps with
  | nil => simp
  | cons a ps ih =>
    obtain ⟨ha, hps⟩ := List.forall_mem_cons.mp hps
    cases ps with
    | nil => simpa using ha
    | cons b ps =>
      rw [join_cons_cons, List.mem_append, List.mem_append, not_or, not_or]
      exact ⟨⟨ha, hsep⟩, ih hps⟩

/-- What is in one of the `pieces` is in the text. -/
theorem mem_of_mem_pieces {sep c : Char} {t p : Text} (hp : p ∈ pieces sep t) (hc : c ∈ p) :
    c ∈ t := by
  rw [← join_pieces sep t]
  exact mem_join [sep] hp hc

/-- A character is in what `join` gives as often as in all parts and the separators together. -/
theorem count_join (sep : Text) (ps : List Text) (c : Char) :
    (join sep ps).count c = ps.flatten.count c + (ps.length - 1) * sep.count c := by
  induction ps with
  | nil => simp
  | cons a ps ih =>
    cases ps with
    | nil => simp
    | cons b ps =>
      rw [join_cons_cons, List.count_append, List.count_append, ih]
      simp only [List.flatten_cons, List.count_append, List.length_cons, Nat.add_sub_cancel,
        Nat.add_mul]
      omega

theorem byteLength_nil : byteLength [] = 0 := rfl

/-- `byteLength` adds up over the parts of a text. -/
theorem byteLength_append (a b : Text) : byteLength (a ++ b) = byteLength a + byteLength b := by
  induction a with
  | nil => simp [byteLength]
  | cons c cs ih =>
    simp only [List.cons_append, byteLength, ih]
    omega

/-! ## Texts trimmed at the end -/

private theorem trimEnd_eq_rdropWhile (p : Char → Bool) (t : Text) :
    trimEnd p t = t.rdropWhile p := rfl

/-- What `trimEnd` leaves does not end in a character of the class. -/
theorem getLast?_trimEnd_ne {p : Char → Bool} {c : Char} (hc : p c = true) (t : Text) :
    (trimEnd p t).getLast? ≠ some c := by
  intro hlast
  obtain ⟨front, hfront⟩ := List.getLast?_eq_some_iff.mp hlast
  rw [trimEnd_eq_rdropWhile] at hfront
  -- `rdropWhile` goes on as long as the last character is of the class.
  have hnot := List.rdropWhile_last_not p t (by simp [hfront])
  simp [hfront, hc] at hnot

/-- `trimEnd` drops characters of the class after a text. -/
private theorem trimEnd_append_right {p : Char → Bool} {r : Text} (h : ∀ c ∈ r, p c = true)
    (t : Text) : trimEnd p (t ++ r) = trimEnd p t := by
  have hreverse : ∀ c ∈ r.reverse, p c = true := fun c hc => h c (List.mem_reverse.mp hc)
  rw [trimEnd, List.reverse_append, List.dropWhile_append_of_pos hreverse, trimEnd]

/-- `dropWhile` drops nothing from a text without characters of the class. -/
private theorem dropWhile_of_forall {p : Char → Bool} {t : Text} (h : ∀ c ∈ t, p c = false) :
    t.dropWhile p = t := by
  cases t with
  | nil => rfl
  | cons c t => rw [List.dropWhile_cons_of_neg (by simp [h])]

/-- Nor does `trimEnd`. -/
private theorem trimEnd_of_forall {p : Char → Bool} {t : Text} (h : ∀ c ∈ t, p c = false) :
    trimEnd p t = t := by
  have hreverse : ∀ c ∈ t.reverse, p c = false := fun c hc => h c (List.mem_reverse.mp hc)
  rw [trimEnd, dropWhile_of_forall hreverse, List.reverse_reverse]

/-- What `trimEnd` drops, if it is one character, stands at the end of the text. -/
theorem exists_trimEnd_append_replicate (x : Char) (t : Text) :
    ∃ n, t = trimEnd (· = x) t ++ List.replicate n x := by
  have hreplicate : t.rtakeWhile (· = x) = List.replicate (t.rtakeWhile (· = x)).length x :=
    List.eq_replicate_iff.mpr ⟨rfl, fun c hc => by simpa using List.mem_rtakeWhile_imp hc⟩
  refine ⟨(t.rtakeWhile (· = x)).length, ?_⟩
  rw [← hreplicate, trimEnd_eq_rdropWhile, List.rdropWhile_append_rtakeWhile]

/-- A text without `x` is what `trimEnd` leaves when `x` has been put behind it. -/
theorem trimEnd_append_replicate {x : Char} {t : Text} (ht : x ∉ t) (n : Nat) :
    trimEnd (· = x) (t ++ List.replicate n x) = t := by
  have hother : ∀ c ∈ t, decide (c = x) = false :=
    fun c hc => decide_eq_false fun e => ht (e ▸ hc)
  rw [trimEnd_append_right (by simp), trimEnd_of_forall hother]

/-! ## Trimmed texts -/

private theorem trim_eq_rdropWhile (p : Char → Bool) (t : Text) :
    trim p t = (t.dropWhile p).rdropWhile p := rfl

/-- What is in a text after `trim` was in it before. -/
theorem mem_of_mem_trim {p : Char → Bool} {t : Text} {c : Char} (h : c ∈ trim p t) : c ∈ t :=
  (List.dropWhile_sublist p).mem ((List.rdropWhile_prefix p _).sublist.mem h)

/-- A text is its padding in front, what `trim` leaves, and the padding after that. -/
theorem trim_parts (p : Char → Bool) (t : Text) :
    t = t.takeWhile p ++ trim p t ++ (t.dropWhile p).rtakeWhile p := by
  rw [trim_eq_rdropWhile, List.append_assoc, List.rdropWhile_append_rtakeWhile,
    List.takeWhile_append_dropWhile]

/-- What `trim` leaves begins with no padding. -/
theorem head?_trim (p : Char → Bool) (t : Text) : ∀ c ∈ (trim p t).head?, p c = false := by
  intro c hc
  -- It stands at the front of what dropping the padding there leaves.
  obtain ⟨rest, hrest⟩ : trim p t <+: t.dropWhile p := List.rdropWhile_prefix p _
  have hnot := List.head?_dropWhile_not p t
  rw [← hrest, List.head?_append, Option.mem_def.mp hc] at hnot
  exact hnot

/-- What `trim` leaves ends with no padding. -/
theorem getLast?_trim (p : Char → Bool) (t : Text) : ∀ c ∈ (trim p t).getLast?, p c = false := by
  intro c hc
  cases hpc : p c with
  | false => rfl
  | true => exact absurd hc (getLast?_trimEnd_ne hpc (t.dropWhile p))

/-- `trim` leaves a text as it is that begins and ends with no padding. -/
theorem trim_eq_self {p : Char → Bool} {t : Text} (hhead : ∀ c ∈ t.head?, p c = false)
    (hlast : ∀ c ∈ t.getLast?, p c = false) : trim p t = t := by
  have hfront : t.dropWhile p = t := by
    cases t with
    | nil => rfl
    | cons c cs => exact List.dropWhile_cons_of_neg (by simp [hhead c rfl])
  -- At the front nothing is dropped, so the end is that of the whole text.
  rw [trim_eq_rdropWhile, hfront, List.rdropWhile_eq_self_iff]
  intro hne
  simp [hlast _ (List.getLast?_eq_some_getLast hne)]

/-- `trim` removes nothing from what it has trimmed. -/
theorem trim_trim (p : Char → Bool) (t : Text) : trim p (trim p t) = trim p t :=
  trim_eq_self (head?_trim p t) (getLast?_trim p t)

/-- `trim` leaves a text without characters of the class as it is. -/
theorem trim_of_forall {p : Char → Bool} {t : Text} (h : ∀ c ∈ t, p c = false) :
    trim p t = t :=
  trim_eq_self (fun c hc => h c (List.mem_of_mem_head? hc))
    (fun c hc => h c (List.mem_of_mem_getLast? hc))

/-- `trim` leaves nothing of a text of padding, and of no other one. -/
theorem trim_eq_nil_iff {p : Char → Bool} {t : Text} : trim p t = [] ↔ ∀ c ∈ t, p c = true := by
  rw [trim_eq_rdropWhile, List.rdropWhile_eq_nil_iff]
  induction t with
  | nil => simp
  | cons c t ih =>
    by_cases hc : p c = true
    · rw [List.dropWhile_cons_of_pos hc, ih]
      simp [hc]
    · rw [List.dropWhile_cons_of_neg hc]

/-- `trim` drops characters of the class in front of a text. -/
theorem trim_append_left {p : Char → Bool} {l : Text} (h : ∀ c ∈ l, p c = true) (t : Text) :
    trim p (l ++ t) = trim p t := by
  simp only [trim_eq_rdropWhile, List.dropWhile_append_of_pos h]

/-- `trim` drops characters of the class after a text. -/
private theorem trim_append_right {p : Char → Bool} {r : Text} (h : ∀ c ∈ r, p c = true)
    (t : Text) : trim p (t ++ r) = trim p t := by
  have hr : r.dropWhile p = [] := List.dropWhile_eq_nil_iff.mpr h
  simp only [trim_eq_rdropWhile, ← trimEnd_eq_rdropWhile]
  rw [List.dropWhile_append]
  split
  · -- All of `t` is dropped already at its front.
    rename_i hempty
    rw [hr, List.isEmpty_iff.mp hempty]
  · exact trimEnd_append_right h _

section FlatMap

variable {p : Char → Bool} {f : Char → Text}

/-- Where `f` leaves padding as it is, and writes all else with something else in front, `dropWhile`
    drops the same padding from what is written. -/
private theorem dropWhile_flatMap (hpad : ∀ c, p c = true → f c = [c])
    (hfront : ∀ c, p c = false → ∃ x xs, f c = x :: xs ∧ p x = false) (t : Text) :
    (t.flatMap f).dropWhile p = (t.dropWhile p).flatMap f := by
  induction t with
  | nil => rfl
  | cons c t ih =>
    rw [List.flatMap_cons]
    cases hc : p c with
    | true =>
      rw [hpad c hc, List.singleton_append, List.dropWhile_cons_of_pos hc,
        List.dropWhile_cons_of_pos hc, ih]
    | false =>
      obtain ⟨x, xs, hx, hpx⟩ := hfront c hc
      rw [List.dropWhile_cons_of_neg (by simp [hc]), List.flatMap_cons, hx, List.cons_append,
        List.dropWhile_cons_of_neg (by simp [hpx])]

/-- Where `f` leaves padding as it is, and writes all else between something else, `trim` may come
    before it. -/
theorem trim_flatMap (hpad : ∀ c, p c = true → f c = [c])
    (hfront : ∀ c, p c = false → ∃ x xs, f c = x :: xs ∧ p x = false)
    (hback : ∀ c, p c = false → ∃ x xs, f c = xs ++ [x] ∧ p x = false) (t : Text) :
    trim p (t.flatMap f) = (trim p t).flatMap f := by
  -- Dropping at the back is dropping at the front of the reversed text.
  have hpad' : ∀ c, p c = true → (List.reverse ∘ f) c = [c] := by
    intro c hc
    rw [Function.comp_apply, hpad c hc, List.reverse_singleton]
  have hback' : ∀ c, p c = false → ∃ x xs, (List.reverse ∘ f) c = x :: xs ∧ p x = false := by
    intro c hc
    obtain ⟨x, xs, hx, hpx⟩ := hback c hc
    exact ⟨x, xs.reverse, by rw [Function.comp_apply, hx, List.reverse_concat], hpx⟩
  have hreverse : List.reverse ∘ List.reverse ∘ f = f := by
    funext c
    exact List.reverse_reverse (f c)
  rw [trim, trim, dropWhile_flatMap hpad hfront, List.reverse_flatMap,
    dropWhile_flatMap hpad' hback', List.reverse_flatMap, hreverse]

end FlatMap

/-! ## Padded texts -/

/-- A text with padding of one class of characters on its two sides. -/
def Padded (p : Char → Bool) (t u : Text) : Prop :=
  ∃ l r, (∀ c ∈ l, p c = true) ∧ (∀ c ∈ r, p c = true) ∧ u = l ++ t ++ r

/-- `Padded` from texts of which `all` characters are padding. -/
theorem Padded.intro {p : Char → Bool} (l t r : Text) (hl : l.all p = true)
    (hr : r.all p = true) : Padded p t (l ++ t ++ r) :=
  ⟨l, r, List.all_eq_true.mp hl, List.all_eq_true.mp hr, rfl⟩

/-- A text is `Padded` with nothing. -/
theorem Padded.refl (p : Char → Bool) (t : Text) : Padded p t t := by
  have h : Padded p t ([] ++ t ++ []) := .intro [] t [] rfl rfl
  rwa [List.nil_append, List.append_nil] at h

/-- `trim` removes the padding of a `Padded` text. -/
theorem Padded.trim_eq {p : Char → Bool} {t u : Text} (h : Padded p t u) :
    trim p u = trim p t := by
  obtain ⟨l, r, hl, hr, rfl⟩ := h
  rw [trim_append_right hr, trim_append_left hl]

/-- What `trim` removes from a text is padding. -/
theorem padded_trim (p : Char → Bool) (t : Text) : Padded p (trim p t) t :=
  ⟨t.takeWhile p, (t.dropWhile p).rtakeWhile p, fun _ hc => List.mem_takeWhile_imp hc,
    fun _ hc => List.mem_rtakeWhile_imp hc, trim_parts p t⟩

/-- A `Padded` text has no new character of another class. -/
theorem Padded.not_mem {p : Char → Bool} {t u : Text} (h : Padded p t u) {c : Char}
    (hp : p c = false) (hc : c ∉ t) : c ∉ u := by
  obtain ⟨l, r, hl, hr, rfl⟩ := h
  have hpad : ∀ s : Text, (∀ x ∈ s, p x = true) → c ∉ s := by
    intro s hs hm
    rw [hs c hm] at hp
    cases hp
  simp [hpad l hl, hpad r hr, hc]

end Facets.Text
