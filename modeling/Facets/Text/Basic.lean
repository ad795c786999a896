/-!
# Texts as lists of characters

Everything in this library reads and writes texts, and a text is the list of its
characters: every function on texts is then a recursion on a list, and what it does is
said by lemmas about lists.  Strings appear only where the program meets its caller.

This file holds the ways of taking a text apart that do not know what the text means:

* `Text.cut?`     what stands before and after the first separator,
* `Text.pieces`   all the pieces between separators, always at least one,
* `Text.trim`     a text without the characters of a class at either end,
* `Text.dropPrefix?` what follows a given beginning,

and `Text.replaceChar`, which puts a text in place of a character.
-/

namespace Facets

/-- A text is the list of its characters. -/
abbrev Text := List Char

namespace Text

/-- What stands before and after the first `sep`, or `none` where there is no `sep`. -/
def cut? (sep : Char) : Text → Option (Text × Text)
  | [] => none
  | c :: cs => if c = sep then some ([], cs) else (cut? sep cs).map fun p => (c :: p.1, p.2)

/-- The pieces between the separators, in order; the empty text has one empty piece. -/
def pieces (sep : Char) : Text → List Text
  | [] => [[]]
  | c :: cs =>
    if c = sep then [] :: pieces sep cs
    else match pieces sep cs with
      | [] => [[c]]
      | p :: ps => (c :: p) :: ps

/-- The pieces written one after the other with `sep` between them. -/
def join (sep : Text) (ps : List Text) : Text := sep.intercalate ps

/-- A text without the characters of a class at its two ends. -/
def trim (p : Char → Bool) (t : Text) : Text :=
  ((t.dropWhile p).reverse.dropWhile p).reverse

/-- A text without the characters of a class at its end. -/
def trimEnd (p : Char → Bool) (t : Text) : Text := (t.reverse.dropWhile p).reverse

/-- What follows `start` in a text that begins with it. -/
def dropPrefix? : (start t : Text) → Option Text
  | [], t => some t
  | _ :: _, [] => none
  | s :: ss, c :: cs => if s = c then dropPrefix? ss cs else none

/-- A text with `new` for each `c`. -/
def replaceChar (c : Char) (new t : Text) : Text := t.flatMap fun x => if x = c then new else [x]

/-- The number of bytes of a text in UTF-8. -/
def byteLength : Text → Nat
  | [] => 0
  | c :: cs => c.utf8Size + byteLength cs

/-- A text padded with spaces to at least `width` characters. -/
def padRight (width : Nat) (t : Text) : Text := t ++ List.replicate (width - t.length) ' '

/-! ## Lemmas on cutting -/

/-- The two sides that `cut?` gives, with the separator between them, are the text. -/
theorem append_of_cut? {sep : Char} {t a b : Text} (h : cut? sep t = some (a, b)) :
    t = a ++ sep :: b ∧ sep ∉ a := by
  induction t generalizing a with
  | nil => simp [cut?] at h
  | cons c cs ih =>
    simp only [cut?] at h
    split at h
    · rename_i hc
      simp only [Option.some.injEq, Prod.mk.injEq] at h
      obtain ⟨rfl, rfl⟩ := h
      simp [hc]
    · rename_i hc
      simp only [Option.map_eq_some_iff, Prod.mk.injEq] at h
      obtain ⟨⟨a', b'⟩, hcut, rfl, rfl⟩ := h
      obtain ⟨rfl, hmem⟩ := ih hcut
      refine ⟨rfl, ?_⟩
      simp only [List.mem_cons, not_or]
      exact ⟨fun e => hc e.symm, hmem⟩

/-- `cut?` cuts a text that begins with something free of the separator, and the separator, there.
    -/
theorem cut?_append {sep : Char} {a : Text} (h : sep ∉ a) (b : Text) :
    cut? sep (a ++ sep :: b) = some (a, b) := by
  induction a with
  | nil => simp [cut?]
  | cons c cs ih =>
    simp only [List.mem_cons, not_or] at h
    have hc : ¬c = sep := fun e => h.1 e.symm
    simp [cut?, hc, ih h.2]

/-- `cut?` does not cut just the texts without the separator. -/
theorem cut?_eq_none_iff {sep : Char} {t : Text} : cut? sep t = none ↔ sep ∉ t := by
  induction t with
  | nil => simp [cut?]
  | cons c cs ih =>
    simp only [cut?, List.mem_cons, not_or]
    by_cases hc : c = sep
    · simp [hc]
    · have hc' : ¬sep = c := fun e => hc e.symm
      simp [hc, hc', ih]

/-! ## Lemmas for recursion on what is left -/

/-- What `cut?` leaves on both sides is the text less one separator. -/
theorem length_of_cut? {sep : Char} {t a b : Text} (h : cut? sep t = some (a, b)) :
    a.length + b.length + 1 = t.length := by
  rw [(append_of_cut? h).1, List.length_append, List.length_cons]
  omega

/-- `pieces` always gives a piece. -/
theorem pieces_ne_nil (sep : Char) (t : Text) : pieces sep t ≠ [] := by
  cases t with
  | nil => simp [pieces]
  | cons c cs =>
    simp only [pieces]
    split
    · simp
    · split <;> simp

/-- The `pieces` of a text, joined again, are the text. -/
theorem join_pieces (sep : Char) (t : Text) : join [sep] (pieces sep t) = t := by
  induction t with
  | nil => rfl
  | cons c cs ih =>
    simp only [pieces]
    cases hp : pieces sep cs with
    | nil => exact absurd hp (pieces_ne_nil sep cs)
    | cons p ps =>
      rw [hp] at ih
      split
      · rename_i hc
        rw [hc, ← ih]
        simp [join, List.intercalate]
      · rw [← ih]
        cases ps <;> simp [join, List.intercalate]

end Text

end Facets
