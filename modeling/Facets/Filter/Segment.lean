import Facets.Text.Basic

/-!
# Segments of a specification

A specification is a sequence of segments `name(settings)`.  A closing parenthesis that closes
nothing ends the name before it, which is dropped; an opening one that is never closed ends
the sequence, since none after it is closed either.

`Scanner.next` gives the next segment and moves past it; `Segment.ofText` gives all of them.
-/

namespace Facets

/-- One `name(settings)` of a specification. -/
structure Segment where
  /-- What stands before the opening parenthesis, blanks and commas included. -/
  name : Text
  /-- What stands between the parentheses. -/
  settings : Text
  /-- The number of bytes before the name. -/
  position : Nat
deriving DecidableEq

/-- The part of a specification that is not scanned yet, and the number of bytes before it. -/
structure Scanner where
  rest : Text
  position : Nat
deriving DecidableEq

namespace Scanner

/-- Whether a character is a parenthesis. -/
def isParen (c : Char) : Bool := c == '(' || c == ')'

/-- A scanner at the end of its text. -/
def finished (s : Scanner) : Scanner := ⟨[], s.position + Text.byteLength s.rest⟩

/-- The next segment, if there is one, and the scanner after it. -/
def next (s : Scanner) : Option Segment × Scanner :=
  let name := s.rest.takeWhile fun c => !isParen c
  match h : s.rest.dropWhile fun c => !isParen c with
  | [] => (none, s.finished)
  | c :: cs =>
    if c = ')' then
      -- It closes nothing: the name before it is dropped, and another one begins.
      have : cs.length < s.rest.length := by
        have := (List.dropWhile_sublist (fun c => !isParen c) (l := s.rest)).length_le
        rw [h, List.length_cons] at this
        exact this
      next ⟨cs, s.position + Text.byteLength name + 1⟩
    else
      match Text.cut? ')' cs with
      -- No later parenthesis is closed either, so nothing is left to find.
      | none => (none, s.finished)
      | some (settings, rest) =>
        (some ⟨name, settings, s.position⟩,
          ⟨rest, s.position + Text.byteLength name + 1 + Text.byteLength settings + 1⟩)
termination_by s.rest.length

/-- After `next` has found a segment, the scanner has less to scan. -/
theorem length_of_next {s s' : Scanner} {g : Segment} (h : s.next = (some g, s')) :
    s'.rest.length < s.rest.length := by
  fun_induction next s with
  | case1 => simp at h
  | case2 s name cs hd hlt ih => exact Nat.lt_trans (ih h) hlt
  | case3 => simp at h
  | case4 s name c cs hd hc settings rest hcut =>
    simp only [Prod.mk.injEq, Option.some.injEq] at h
    obtain ⟨_, rfl⟩ := h
    have h1 := (List.dropWhile_sublist (fun c => !isParen c) (l := s.rest)).length_le
    rw [hd, List.length_cons] at h1
    have h2 := Text.length_of_cut? hcut
    simp only
    omega

/-- The segments that a scanner still finds. -/
def segments (s : Scanner) : List Segment :=
  match h : s.next with
  | (none, _) => []
  | (some g, s') =>
    have := length_of_next h
    g :: segments s'
termination_by s.rest.length

end Scanner

/-- The segments of a specification. -/
def Segment.ofText (t : Text) : List Segment := (Scanner.mk t 0).segments

end Facets
