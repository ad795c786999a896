/-!
# Lists in which a key occurs once

The settings of a filter, the filters of a catalog and the pairs of a query are lists whose
order shows, and in which each key stands at most once.  One operation, `Keyed.put`, builds all
three: it replaces the element of a key where it stands, or adds it at the end.  `Keyed.get?`
looks an element up.

`Keyed.putSorted` does the same for a list in increasing order of keys.  `addNew` does it for a
list of plain values, and `distinct` drops repeated values, of which the first is kept.
-/

namespace Facets

/-! ## Lists without repetitions -/

/-- A list with `x` at the end, unless `x` is in it. -/
def addNew {α : Type} [DecidableEq α] (xs : List α) (x : α) : List α :=
  if x ∈ xs then xs else xs ++ [x]

/-- A list without repetitions, the first occurrences kept in order. -/
def distinct {α : Type} [DecidableEq α] (xs : List α) : List α := xs.foldl addNew []

/-- `addNew` keeps a list free of repetitions. -/
theorem nodup_addNew {α : Type} [DecidableEq α] {xs : List α} (h : xs.Nodup) (x : α) :
    (addNew xs x).Nodup := by
  simp only [addNew]
  split
  · exact h
  · rename_i hx
    rw [List.nodup_append]
    refine ⟨h, by simp, ?_⟩
    rintro a ha b hb rfl
    simp only [List.mem_singleton] at hb
    exact hx (hb ▸ ha)

/-- After `addNew` a list has its old values and the added one. -/
theorem mem_addNew {α : Type} [DecidableEq α] {xs : List α} {x a : α} :
    a ∈ addNew xs x ↔ a ∈ xs ∨ a = x := by
  simp only [addNew]
  split
  · rename_i hx
    constructor
    · exact Or.inl
    · rintro (h | rfl)
      · exact h
      · exact hx
  · simp

/-! ## Lists with keys -/

namespace Keyed

variable {α κ : Type} [DecidableEq κ]

/-- A list with `x` in place of the element of its key, or at the end if there is none. -/
def put (key : α → κ) (x : α) : List α → List α
  | [] => [x]
  | y :: ys => if key y = key x then x :: ys else y :: put key x ys

/-- The element of a key. -/
def get? (key : α → κ) (k : κ) (xs : List α) : Option α := xs.find? fun x => key x = k

/-- A list with some elements put into it, one after the other. -/
def putAll (key : α → κ) (xs new : List α) : List α := new.foldl (fun xs x => put key x xs) xs

/-- A list in increasing order of keys with `x` in place of the element of its key, or where its
    key belongs if there is none. -/
def putSorted [LT κ] [DecidableLT κ] (key : α → κ) (x : α) : List α → List α
  | [] => [x]
  | y :: ys =>
    if key y = key x then x :: ys
    else if key x < key y then x :: y :: ys
    else y :: putSorted key x ys

/-- `put` adds the key of an element at the end, unless it is there. -/
theorem map_put (key : α → κ) (x : α) (xs : List α) :
    (put key x xs).map key = addNew (xs.map key) (key x) := by
  induction xs with
  | nil => simp [put, addNew]
  | cons y ys ih =>
    simp only [put]
    by_cases h : key y = key x
    · simp [addNew, h]
    · have h' : ¬key x = key y := fun e => h e.symm
      simp only [h, if_false, List.map_cons, ih, addNew, List.mem_cons, h', false_or]
      split <;> simp

/-- Keys that occur once occur once after `put`. -/
theorem nodup_map_put {key : α → κ} {xs : List α} (h : (xs.map key).Nodup) (x : α) :
    ((put key x xs).map key).Nodup := by
  rw [map_put]
  exact nodup_addNew h (key x)

/-- `get?` finds what `put` put under its key, and all else as before. -/
theorem get?_put (key : α → κ) (x : α) (k : κ) (xs : List α) :
    get? key k (put key x xs) = if key x = k then some x else get? key k xs := by
  induction xs with
  | nil => by_cases h : key x = k <;> simp [put, get?, h]
  | cons y ys ih =>
    simp only [get?] at ih ⊢
    by_cases hy : key y = key x
    · by_cases hk : key x = k <;> simp [put, hy, hk]
    · simp only [put, hy, if_false, List.find?_cons, ih]
      by_cases hyk : key y = k
      · have : ¬key x = k := fun e => hy (hyk.trans e.symm)
        simp [hyk, this]
      · simp [hyk]

/-- `put` puts an element last if `get?` finds none under its key. -/
theorem put_of_get?_eq_none {key : α → κ} {x : α} {xs : List α}
    (h : get? key (key x) xs = none) : put key x xs = xs ++ [x] := by
  induction xs with
  | nil => rfl
  | cons y ys ih =>
    simp only [get?, List.find?_cons] at ih h
    by_cases hy : key y = key x
    · simp [hy] at h
    · simp only [hy, decide_false] at h
      rw [put, if_neg hy, ih h, List.cons_append]

/-- `put` changes nothing if `get?` finds the element itself under its key. -/
theorem put_of_get?_eq_some {key : α → κ} {x : α} {xs : List α}
    (h : get? key (key x) xs = some x) : put key x xs = xs := by
  induction xs with
  | nil => cases h
  | cons y ys ih =>
    simp only [get?, List.find?_cons] at ih h
    by_cases hy : key y = key x
    · simp only [hy, decide_true, Option.some.injEq] at h
      rw [put, if_pos hy, h]
    · simp only [hy, decide_false] at h
      rw [put, if_neg hy, ih h]

/-- `get?` finds what `putSorted` put under its key, too, and all else as before. -/
theorem get?_putSorted [LT κ] [DecidableLT κ] (key : α → κ) (x : α) (k : κ) (xs : List α) :
    get? key k (putSorted key x xs) = if key x = k then some x else get? key k xs := by
  induction xs with
  | nil => by_cases h : key x = k <;> simp [putSorted, get?, h]
  | cons y ys ih =>
    simp only [get?] at ih ⊢
    simp only [putSorted]
    by_cases hy : key y = key x
    · by_cases hk : key x = k <;> simp [hy, hk]
    · rw [if_neg hy]
      split
      · by_cases hk : key x = k <;> simp [hk]
      · by_cases hyk : key y = k
        · have hk : ¬key x = k := fun e => hy (hyk.trans e.symm)
          simp [hyk, hk]
        · simp [hyk, ih]

end Keyed

end Facets
