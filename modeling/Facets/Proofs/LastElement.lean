import Mathlib.Data.List.Infix

/-!
# The last element with a property

A reader that lets a later element replace an earlier one is described by the last element of
its kind.  `IsLast p xs x after` says that `x` is the last element of `xs` with the property `p`,
and that `after` follows it.

There is such an element if there is any with the property (`exists_isLast`), and only one
(`IsLast.unique`).  In two lists one after the other it is that of the second, or else that of the
first (`isLast_append`).
-/

namespace Facets

variable {α : Type}

/-- `x` is the last element of `xs` with the property `p`, and `after` is what follows it. -/
structure IsLast (p : α → Prop) (xs : List α) (x : α) (after : List α) : Prop where
  holds : p x
  not_after : ∀ y ∈ after, ¬p y
  suffix : x :: after <:+ xs

variable {p : α → Prop} {xs : List α}

theorem IsLast.mem {x : α} {after : List α} (h : IsLast p xs x after) : x ∈ xs :=
  h.suffix.mem List.mem_cons_self

/-- Of `xs ++ ys` the second list has the last element, unless it has none with the property. -/
theorem isLast_append {ys : List α} {x : α} {after : List α} :
    IsLast p (xs ++ ys) x after ↔
      IsLast p ys x after ∨
        (∀ y ∈ ys, ¬p y) ∧ ∃ rest, after = rest ++ ys ∧ IsLast p xs x rest := by
  constructor
  · rintro ⟨hx, hafter, before, heq⟩
    rcases List.append_eq_append_iff.mp heq with ⟨as, rfl, hys⟩ | ⟨bs, rfl, hys⟩
    · cases as with
      | nil => exact .inl ⟨hx, hafter, [], by simpa using hys⟩
      | cons z rest =>
        -- The element stands in the first list, so all of the second one follows it.
        rw [List.cons_append, List.cons.injEq] at hys
        obtain ⟨rfl, rfl⟩ := hys
        rw [List.forall_mem_append] at hafter
        exact .inr ⟨hafter.2, rest, rfl, hx, hafter.1, List.suffix_append _ _⟩
    · exact .inl ⟨hx, hafter, bs, hys.symm⟩
  · rintro (⟨hx, hafter, hsuffix⟩ | ⟨hys, rest, rfl, hx, hrest, before, rfl⟩)
    · exact ⟨hx, hafter, hsuffix.trans (List.suffix_append xs ys)⟩
    · exact ⟨hx, List.forall_mem_append.mpr ⟨hrest, hys⟩, before, by simp⟩

/-- In `xs ++ [y]` the last element is `y`, or `y` has not the property. -/
theorem isLast_concat {x y : α} {after : List α} :
    IsLast p (xs ++ [y]) x after ↔
      (p y ∧ x = y ∧ after = []) ∨
        ¬p y ∧ ∃ rest, after = rest ++ [y] ∧ IsLast p xs x rest := by
  have hsingle : IsLast p [y] x after ↔ p y ∧ x = y ∧ after = [] := by
    constructor
    · rintro ⟨hx, -, hsuffix⟩
      rw [List.suffix_cons_iff, List.suffix_nil] at hsuffix
      obtain ⟨rfl, rfl⟩ := List.cons.inj (hsuffix.resolve_right (List.cons_ne_nil x after))
      exact ⟨hx, rfl, rfl⟩
    · rintro ⟨hy, rfl, rfl⟩
      exact ⟨hy, List.forall_mem_nil _, List.suffix_refl _⟩
  rw [isLast_append, hsingle, List.forall_mem_singleton]

/-- Without the property, `y` only makes `after` longer. -/
theorem IsLast.of_concat {x y : α} {after : List α} (h : IsLast p (xs ++ [y]) x after)
    (hy : ¬p y) : ∃ rest, after = rest ++ [y] ∧ IsLast p xs x rest := by
  rcases isLast_concat.mp h with ⟨hy', -⟩ | ⟨-, hrest⟩
  · exact absurd hy' hy
  · exact hrest

/-- `IsLast` is kept by an element without the property, which is added to `after`. -/
theorem IsLast.concat {x y : α} {after : List α} (h : IsLast p xs x after) (hy : ¬p y) :
    IsLast p (xs ++ [y]) x (after ++ [y]) := isLast_concat.mpr (.inr ⟨hy, after, rfl, h⟩)

/-- If an element has the property, there is one for which `IsLast` holds. -/
theorem exists_isLast (h : ∃ x ∈ xs, p x) : ∃ x after, IsLast p xs x after := by
  classical
  induction xs using List.reverseRecOn with
  | nil => simp at h
  | append_singleton xs y ih =>
    -- By induction from the end: the element `y` that is looked at comes last.
    by_cases hy : p y
    · exact ⟨y, [], isLast_concat.mpr (.inl ⟨hy, rfl, rfl⟩)⟩
    · have hxs : ∃ x ∈ xs, p x := by simpa [hy] using h
      obtain ⟨x, rest, hlast⟩ := ih hxs
      exact ⟨x, rest ++ [y], hlast.concat hy⟩

/-- There is only one element for which `IsLast` holds, in one place. -/
theorem IsLast.unique {x y : α} {after after' : List α} (h : IsLast p xs x after)
    (h' : IsLast p xs y after') : x = y ∧ after = after' := by
  obtain ⟨before, rfl⟩ := h.suffix
  rw [isLast_append] at h'
  rcases h' with h' | ⟨hnone, -⟩
  · -- The other one stands no earlier, and after the first there is none.
    rcases List.suffix_cons_iff.mp h'.suffix with heq | hsuffix
    · obtain ⟨rfl, rfl⟩ := List.cons.inj heq
      exact ⟨rfl, rfl⟩
    · exact absurd h'.holds (h.not_after y (hsuffix.mem List.mem_cons_self))
  · exact absurd h.holds (hnone x List.mem_cons_self)

end Facets
