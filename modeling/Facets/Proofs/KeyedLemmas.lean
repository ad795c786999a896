import Facets.Keyed
import Mathlib.Data.List.Nodup

/-!
# Laws of lists in which a key occurs once

`distinct` is the standard library's `eraseDups`, and a list is its own `distinct` just when it
has no repetitions.

For `Keyed.put` and `Keyed.putAll`, which overwrite and extend a list, the laws are those of a
union in which the right side wins: two elements of one key are the last one (`put_put`), a
list of distinct keys is what putting its elements builds (`putAll_nil`), and putting is
associative (`putAll_putAll`) and idempotent (`putAll_self`).  What such a union holds is said by
its elements (`get?_putAll`) and by its keys in their order (`map_putAll`).

`Keyed.putSorted` adds the key of an element and no other one, and leaves keys that increase
increasing (`pairwise_map_putSorted`).
-/

namespace Facets

variable {α : Type}

/-! ## Lists without repetitions -/

section Distinct

variable [DecidableEq α]

/-- New values that are all different are added by `addNew` as they stand. -/
private theorem foldl_addNew {xs ys : List α} (h : (xs ++ ys).Nodup) :
    ys.foldl addNew xs = xs ++ ys := by
  induction ys generalizing xs with
  | nil => simp
  | cons y ys ih =>
    have hy : y ∉ xs := fun hm =>
      (List.nodup_append.mp h).2.2 y hm y List.mem_cons_self rfl
    -- The hypothesis is passed on for the list that `y` has been added to.
    rw [List.foldl_cons, addNew, if_neg hy, ih (by simpa using h)]
    simp

/-- `distinct` leaves a list without repetitions as it is. -/
theorem distinct_of_nodup {xs : List α} (h : xs.Nodup) : distinct xs = xs := by
  have h' : ([] ++ xs).Nodup := h
  exact foldl_addNew h'

/-- Adding values by `addNew` keeps a list free of repetitions. -/
theorem nodup_foldl_addNew {xs : List α} (h : xs.Nodup) (ys : List α) :
    (ys.foldl addNew xs).Nodup := by
  induction ys generalizing xs with
  | nil => exact h
  | cons y ys ih => exact ih (nodup_addNew h y)

/-- `distinct` leaves no value twice. -/
theorem nodup_distinct (xs : List α) : (distinct xs).Nodup :=
  nodup_foldl_addNew List.nodup_nil xs

/-- `distinct` leaves just the lists without repetitions as they are. -/
theorem distinct_eq_self_iff {xs : List α} : distinct xs = xs ↔ xs.Nodup :=
  ⟨fun h => h ▸ nodup_distinct xs, distinct_of_nodup⟩

/-- Adding values by `addNew` adds those that the list does not have, each once. -/
theorem foldl_addNew_eq [BEq α] [LawfulBEq α] (xs ys : List α) :
    ys.foldl addNew xs = xs ++ (ys.filter (· ∉ xs)).eraseDups := by
  induction ys generalizing xs with
  | nil => simp
  | cons y ys ih =>
    rw [List.foldl_cons, ih, addNew]
    split
    · rename_i hy
      simp [hy]
    · -- `y` is new, and each later occurrence of it is passed over.
      rename_i hy
      rw [List.filter_cons_of_pos (by simpa using hy), List.eraseDups_cons, List.filter_filter,
        List.append_assoc, List.singleton_append]
      congr 3
      refine List.filter_congr fun z _ => ?_
      simp [not_or, Bool.and_comm, beq_eq_decide]

/-- `distinct` is the standard library's `eraseDups`: of equal values the first one stays. -/
theorem distinct_eq_eraseDups [BEq α] [LawfulBEq α] (xs : List α) :
    distinct xs = xs.eraseDups := by
  rw [distinct, foldl_addNew_eq]
  simp

/-- For `eraseDups`, one more value is one that `addNew` adds to the distinct ones. -/
theorem eraseDups_concat [BEq α] [LawfulBEq α] (xs : List α) (x : α) :
    (xs ++ [x]).eraseDups = addNew xs.eraseDups x := by
  rw [← distinct_eq_eraseDups, ← distinct_eq_eraseDups, distinct, List.foldl_append]
  rfl

/-- `addNew` commutes with an injective `f`. -/
theorem map_addNew {β : Type} [DecidableEq β] {f : α → β} (hf : Function.Injective f)
    (xs : List α) (x : α) : (addNew xs x).map f = addNew (xs.map f) (f x) := by
  simp only [addNew, List.mem_map_of_injective hf]
  split
  · rfl
  · rw [List.map_append, List.map_singleton]

end Distinct

/-! ## Putting elements under their keys -/

namespace Keyed

variable {κ : Type} [DecidableEq κ] {key : α → κ}

/-- What is in a list after `put` was put or was there. -/
theorem mem_put {x y : α} {xs : List α} (h : y ∈ put key x xs) : y = x ∨ y ∈ xs := by
  induction xs with
  | nil => exact .inl (List.mem_singleton.mp h)
  | cons z zs ih =>
    simp only [put] at h
    split at h
    · rcases List.mem_cons.mp h with rfl | h
      · exact .inl rfl
      · exact .inr (List.mem_cons_of_mem z h)
    · rcases List.mem_cons.mp h with rfl | h
      · exact .inr List.mem_cons_self
      · exact (ih h).imp_right (List.mem_cons_of_mem z)

/-- `get?` finds nothing just under a key that is not there. -/
theorem get?_eq_none_iff {k : κ} {xs : List α} : get? key k xs = none ↔ k ∉ xs.map key := by
  rw [get?, List.find?_eq_none]
  simp

/-- `put` puts an element with a new key last. -/
private theorem put_of_not_mem {x : α} {xs : List α} (h : key x ∉ xs.map key) :
    put key x xs = xs ++ [x] := put_of_get?_eq_none (get?_eq_none_iff.mpr h)

/-- `put` puts an element last if its key is new, and else in the place of the first element of its
    key. -/
theorem put_eq (key : α → κ) (x : α) (xs : List α) :
    (key x ∉ xs.map key ∧ put key x xs = xs ++ [x]) ∨
      ∃ before old after, xs = before ++ old :: after ∧ key old = key x ∧
        key x ∉ before.map key ∧ put key x xs = before ++ x :: after := by
  induction xs with
  | nil => exact .inl ⟨by simp, rfl⟩
  | cons y ys ih =>
    -- The search stops at the first element of the key, and passes over the others.
    by_cases hy : key y = key x
    · exact .inr ⟨[], y, ys, rfl, hy, by simp, by simp [put, hy]⟩
    · rcases ih with ⟨hnew, hput⟩ | ⟨before, old, after, rfl, hold, hbefore, hput⟩
      · exact .inl ⟨by simp [Ne.symm hy, hnew], by simp [put, hy, hput]⟩
      · exact .inr ⟨y :: before, old, after, rfl, hold, by simp [Ne.symm hy, hbefore],
          by simp [put, hy, hput]⟩

/-- `put` leaves elements of other keys as they are, in their order. -/
theorem filter_put (key : α → κ) (x : α) (xs : List α) :
    (put key x xs).filter (key · ≠ key x) = xs.filter (key · ≠ key x) := by
  -- Wherever the element goes, it is left out on both sides.
  rcases put_eq key x xs with ⟨-, hput⟩ | ⟨before, old, after, hxs, hold, -, hput⟩
  · simp [hput]
  · rw [hput, hxs]
    simp [hold]

/-- Of two elements of one key `put` leaves the last one. -/
theorem put_put {x y : α} (h : key x = key y) (xs : List α) :
    put key y (put key x xs) = put key y xs := by
  induction xs with
  | nil => simp [put, h]
  | cons z zs ih =>
    by_cases hz : key z = key y
    · simp [put, h, hz]
    · simp [put, h, hz, ih]

/-- Elements of two keys can be put in either order, if the place of `x` is settled. -/
private theorem put_comm {x y : α} {xs : List α} (h : key x ≠ key y) (hx : key x ∈ xs.map key) :
    put key x (put key y xs) = put key y (put key x xs) := by
  induction xs with
  | nil => cases hx
  | cons z zs ih =>
    -- `x` replaces an element, so it makes no difference where `y` goes.
    by_cases hzx : key z = key x
    · have hzy : key z ≠ key y := fun e => h (hzx.symm.trans e)
      simp [put, hzx, h]
    · have hx' : key x ∈ zs.map key := by
        simpa [Ne.symm hzx] using hx
      by_cases hzy : key z = key y
      · simp [put, hzy, Ne.symm h]
      · simp [put, hzx, hzy, ih hx']

@[simp] theorem putAll_nil_right (xs : List α) : putAll key xs [] = xs := rfl

/-- `putAll` puts the first element first. -/
@[simp] theorem putAll_cons (xs : List α) (y : α) (ys : List α) :
    putAll key xs (y :: ys) = putAll key (put key y xs) ys := rfl

/-- `putAll` of `ys ++ zs` puts `zs` after `ys`. -/
theorem putAll_append (xs ys zs : List α) :
    putAll key xs (ys ++ zs) = putAll key (putAll key xs ys) zs := List.foldl_append

/-- Keys that occur once occur once after `putAll`. -/
theorem nodup_map_putAll {xs : List α} (h : (xs.map key).Nodup) (ys : List α) :
    ((putAll key xs ys).map key).Nodup := by
  induction ys generalizing xs with
  | nil => exact h
  | cons y ys ih => exact ih (nodup_map_put h y)

/-- In what `putAll` builds from nothing each key occurs once. -/
theorem nodup_map_putAll_nil (ys : List α) : ((putAll key [] ys).map key).Nodup := by
  have hnil : (([] : List α).map key).Nodup := List.nodup_nil
  exact nodup_map_putAll hnil ys

/-- What is in a list after `putAll` was put or was there. -/
theorem mem_putAll {y : α} {xs ys : List α} (h : y ∈ putAll key xs ys) : y ∈ ys ∨ y ∈ xs := by
  induction ys generalizing xs with
  | nil => exact .inr h
  | cons z zs ih =>
    rcases ih h with h | h
    · exact .inl (List.mem_cons_of_mem z h)
    · rcases mem_put h with rfl | h
      · exact .inl List.mem_cons_self
      · exact .inr h

/-- `putAll` puts elements with new keys, all different, last in their order. -/
private theorem putAll_of_nodup {xs ys : List α} (h : ((xs ++ ys).map key).Nodup) :
    putAll key xs ys = xs ++ ys := by
  induction ys generalizing xs with
  | nil => simp
  | cons y ys ih =>
    have hy : key y ∉ xs.map key := by
      rw [List.map_append, List.map_cons] at h
      exact fun hm => (List.nodup_append.mp h).2.2 _ hm _ List.mem_cons_self rfl
    rw [putAll_cons, put_of_not_mem hy, ih (by simpa using h)]
    simp

/-- A list of distinct keys is what `putAll` builds from its elements. -/
theorem putAll_nil {xs : List α} (h : (xs.map key).Nodup) : putAll key [] xs = xs := by
  have h' : (([] ++ xs).map key).Nodup := h
  exact putAll_of_nodup h'

/-- An element whose place is settled can be put before `ys` or after, if these have other keys. -/
private theorem put_putAll {x : α} {xs ys : List α} (hx : key x ∈ xs.map key)
    (hy : key x ∉ ys.map key) : put key x (putAll key xs ys) = putAll key (put key x xs) ys := by
  induction ys generalizing xs with
  | nil => rfl
  | cons y ys ih =>
    simp only [List.map_cons, List.mem_cons, not_or] at hy
    -- The place of `x` stays settled while the elements are put.
    have hx' : key x ∈ (put key y xs).map key := by
      rw [map_put, mem_addNew]
      exact .inl hx
    rw [putAll_cons, putAll_cons, ih hx' hy.2, put_comm hy.1 hx]

/-- What `put` puts into `ys`, `putAll` puts last. -/
theorem putAll_put (x : α) (xs : List α) {ys : List α} (h : (ys.map key).Nodup) :
    putAll key xs (put key x ys) = put key x (putAll key xs ys) := by
  induction ys generalizing xs with
  | nil => rfl
  | cons y ys ih =>
    rw [List.map_cons, List.nodup_cons] at h
    rw [put]
    split
    · -- `x` takes the place of `y` in `ys`, and the place that `y` was given in `xs`.
      rename_i hyx
      have hmem : key x ∈ (put key y xs).map key := by
        rw [map_put, mem_addNew, ← hyx]
        exact .inr rfl
      rw [putAll_cons, putAll_cons, put_putAll hmem (hyx ▸ h.1), put_put hyx]
    · rw [putAll_cons, putAll_cons, ih _ h.2]

/-- `putAll` is associative. -/
theorem putAll_putAll (xs : List α) {ys : List α} (h : (ys.map key).Nodup) (zs : List α) :
    putAll key xs (putAll key ys zs) = putAll key (putAll key xs ys) zs := by
  induction zs generalizing ys with
  | nil => rfl
  | cons z zs ih => rw [putAll_cons, ih (nodup_map_put h z), putAll_put z xs h, putAll_cons]

/-- Lists with the same distinct keys are the same if `get?` finds the same under each. -/
theorem eq_of_get?_eq {xs ys : List α} (hnodup : (xs.map key).Nodup)
    (hkeys : xs.map key = ys.map key)
    (hget : ∀ k ∈ xs.map key, get? key k xs = get? key k ys) : xs = ys := by
  induction xs generalizing ys with
  | nil => exact (List.map_eq_nil_iff.mp hkeys.symm).symm
  | cons x xs ih =>
    cases ys with
    | nil => cases hkeys
    | cons y ys =>
      rw [List.map_cons, List.nodup_cons] at hnodup
      rw [List.map_cons, List.map_cons, List.cons.injEq] at hkeys
      -- The first elements are found under the first key, the others under keys that it does not
      -- hide.
      have hhead : x = y := by simpa [get?, hkeys.1] using hget (key x) List.mem_cons_self
      have htail : xs = ys := ih hnodup.2 hkeys.2 fun k hk => by
        have hx : key x ≠ k := fun e => hnodup.1 (e ▸ hk)
        have hy : key y ≠ k := hkeys.1 ▸ hx
        simpa [get?, hx, hy] using hget k (List.mem_cons_of_mem _ hk)
      rw [hhead, htail]

/-- Under each key `get?` finds what `putAll` put there, or else what was there before. -/
theorem get?_putAll (xs : List α) {ys : List α} (h : (ys.map key).Nodup) (k : κ) :
    get? key k (putAll key xs ys) = (get? key k ys).or (get? key k xs) := by
  induction ys generalizing xs with
  | nil => rfl
  | cons y ys ih =>
    rw [List.map_cons, List.nodup_cons] at h
    rw [putAll_cons, ih (put key y xs) h.2, get?_put]
    by_cases hy : key y = k
    · -- The element is not overwritten by a later one.
      have hnone : get? key k ys = none := get?_eq_none_iff.mpr (hy ▸ h.1)
      rw [if_pos hy, hnone]
      simp [get?, hy]
    · rw [if_neg hy]
      simp [get?, hy]

/-- `putAll` leaves the keys in their places and adds the new ones in order. -/
theorem map_putAll [BEq κ] [LawfulBEq κ] (xs : List α) {ys : List α} (h : (ys.map key).Nodup) :
    (putAll key xs ys).map key = xs.map key ++ (ys.map key).filter (· ∉ xs.map key) := by
  -- On the keys alone, putting elements is adding values.
  have hfold : ∀ xs : List α,
      (putAll key xs ys).map key = (ys.map key).foldl addNew (xs.map key) := by
    clear h
    induction ys with
    | nil => exact fun _ => rfl
    | cons y ys ih =>
      intro xs
      rw [putAll_cons, ih, map_put, List.map_cons, List.foldl_cons]
  rw [hfold, foldl_addNew_eq, ← distinct_eq_eraseDups, distinct_of_nodup (h.filter _)]

/-- Elements that are there can be put again: `putAll` is idempotent. -/
theorem putAll_self {xs : List α} (h : (xs.map key).Nodup) : putAll key xs xs = xs := by
  have hkeys : (putAll key xs xs).map key = xs.map key := by
    rw [map_putAll xs h, List.filter_eq_nil_iff.mpr fun k hk => by simpa using hk,
      List.append_nil]
  -- No key is added, and under each key is the element that was there.
  refine eq_of_get?_eq (hkeys ▸ h) hkeys fun k _ => ?_
  rw [get?_putAll xs h, Option.or_self]

/-! ## Keys in increasing order -/

section Sorted

variable [LT κ] [DecidableLT κ]

/-- The keys after `putSorted` are the old ones and the one that was put. -/
theorem mem_map_putSorted {x : α} {xs : List α} {k : κ} :
    k ∈ (putSorted key x xs).map key ↔ k = key x ∨ k ∈ xs.map key := by
  induction xs with
  | nil => simp [putSorted]
  | cons y ys ih =>
    simp only [putSorted]
    split
    · -- The element takes the place of one of its key.
      rename_i hy
      simp [hy]
    split
    · simp
    · simp only [List.map_cons, List.mem_cons, ih]
      exact or_left_comm

/-- What is in a list after `putSorted` was put or was there. -/
theorem mem_of_mem_putSorted {x y : α} {xs : List α} (h : y ∈ putSorted key x xs) :
    y = x ∨ y ∈ xs := by
  induction xs with
  | nil => exact .inl (List.mem_singleton.mp h)
  | cons z zs ih =>
    simp only [putSorted] at h
    split at h
    · -- `x` takes the place of `z`.
      exact (List.mem_cons.mp h).imp_right (List.mem_cons_of_mem z)
    split at h
    · exact List.mem_cons.mp h
    · rcases List.mem_cons.mp h with rfl | h
      · exact .inr List.mem_cons_self
      · exact (ih h).imp_right (List.mem_cons_of_mem z)

/-- Keys that increase still increase after `putSorted`. -/
theorem pairwise_map_putSorted [IsStrictTotalOrder κ (· < ·)] {xs : List α}
    (h : (xs.map key).Pairwise (· < ·)) (x : α) :
    ((putSorted key x xs).map key).Pairwise (· < ·) := by
  induction xs with
  | nil => simp [putSorted]
  | cons y ys ih =>
    obtain ⟨hy, hys⟩ := List.pairwise_cons.mp h
    simp only [putSorted]
    split
    · rename_i heq
      rw [List.map_cons, ← heq]
      exact h
    split
    · -- The key is less than the first one, and so than all.
      rename_i hlt
      refine List.pairwise_cons.mpr ⟨fun k hk => ?_, h⟩
      rw [List.map_cons, List.mem_cons] at hk
      cases hk with
      | inl hk => exact hk ▸ hlt
      | inr hk => exact Trans.trans hlt (hy k hk)
    · -- The key is greater than the first one, and goes somewhere behind it.
      rename_i hne hnot
      have hlt : key y < key x := by
        rcases trichotomous_of (· < ·) (key y) (key x) with hlt | heq | hgt
        · exact hlt
        · exact absurd heq hne
        · exact absurd hgt hnot
      refine List.pairwise_cons.mpr ⟨fun k hk => ?_, ih hys⟩
      rw [mem_map_putSorted] at hk
      cases hk with
      | inl hk => exact hk ▸ hlt
      | inr hk => exact hy k hk

end Sorted

end Keyed

end Facets
