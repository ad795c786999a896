/-!
# Laws of steps that can fail

What `Except` steps one after the other come to, and what a fold of such steps keeps.
-/

namespace Facets

variable {α β ε : Type}

/-- A `bind` succeeds only if both steps do. -/
theorem exists_ok_of_bind_eq_ok {x : Except ε α} {f : α → Except ε β} {b : β}
    (h : x >>= f = .ok b) : ∃ a, x = .ok a ∧ f a = .ok b := by
  cases x with
  | error e => exact nomatch h
  | ok a => exact ⟨a, rfl, h⟩

/-- A `bind` fails if the first step does, or if the second one does after it. -/
theorem error_or_exists_ok_of_bind_eq_error {x : Except ε α} {f : α → Except ε β} {e : ε}
    (h : x >>= f = .error e) : x = .error e ∨ ∃ a, x = .ok a ∧ f a = .error e := by
  cases x with
  | error e' =>
    cases h
    exact .inl rfl
  | ok a => exact .inr ⟨a, rfl, h⟩

/-- `map` succeeds just if what it changes succeeds. -/
theorem map_eq_ok_iff {g : α → β} {x : Except ε α} {b : β} :
    g <$> x = .ok b ↔ ∃ a, x = .ok a ∧ g a = b := by
  cases x <;> simp [Functor.map, Except.map]

/-- `map` leaves errors alone. -/
theorem map_eq_error_iff {g : α → β} {x : Except ε α} {e : ε} :
    g <$> x = .error e ↔ x = .error e := by
  cases x <;> simp [Functor.map, Except.map]

/-- What each step of a reader keeps, a `foldlM` that succeeds keeps, where `P` is said of all that
    has been read so far. -/
theorem foldlM_read {f : β → α → Except ε β} {P : List α → β → Prop} {l : List α}
    (hstep : ∀ read a b b', a ∈ l → f b a = .ok b' → P read b → P (read ++ [a]) b') {b b' : β}
    (h : l.foldlM f b = .ok b') (hb : P [] b) : P l b' := by
  -- The list that is left is taken apart, and what has been read grows behind `read`.
  suffices ∀ read, P read b → P (read ++ l) b' from this [] hb
  clear hb
  induction l generalizing b with
  | nil =>
    intro read hb
    cases h
    rwa [List.append_nil]
  | cons a l ih =>
    intro read hb
    rw [List.foldlM_cons] at h
    obtain ⟨b₁, ha, h⟩ := exists_ok_of_bind_eq_ok h
    have hb₁ : P (read ++ [a]) b₁ := hstep read a b b₁ List.mem_cons_self ha hb
    rw [List.append_cons]
    exact ih (fun read a b b' hm => hstep read a b b' (List.mem_cons_of_mem _ hm)) h _ hb₁

/-- What every step of a reader keeps, a `foldlM` that succeeds keeps. -/
theorem foldlM_invariant {f : β → α → Except ε β} {P : β → Prop} {l : List α}
    (hstep : ∀ b a b', a ∈ l → f b a = .ok b' → P b → P b') {b b' : β}
    (h : l.foldlM f b = .ok b') (hb : P b) : P b' :=
  foldlM_read (P := fun _ => P) (fun _ a b b' => hstep b a b') h hb

end Facets
