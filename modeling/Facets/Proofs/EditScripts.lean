import Facets.Text.EditDistance
import Mathlib.Order.Bounds.Basic

/-!
# Edit scripts

The edit distance of two texts is the length of a shortest script that turns one into the other
(`Text.isLeast_editDistance`).  A script is a list of single-character edits, made one after the
other anywhere in the text; the rows that compute the distance know nothing of scripts.

Between the two stand alignments (`Text.Aligns`): two texts written below each other, character
by character, with gaps.  An edit changes the cost of an alignment by one at most, so no script is
shorter than the best alignment (`Text.exists_aligns_of_edited`), and an alignment can be made one
difference at a time, so that some script is as short (`Text.Aligns.exists_script`).  The rows hold
the least costs of alignments (`Text.Row`), since an alignment is a shorter one and its last column.
-/

namespace Facets.Text

/-! ## Edits -/

/-- An edit of a single character.  At a position that a text does not have it does nothing. -/
inductive Edit where
  /-- Write a character in front of the one at a position, or at the end. -/
  | insert (i : Nat) (c : Char)
  | delete (i : Nat)
  | substitute (i : Nat) (c : Char)
deriving DecidableEq

/-- A text after an edit. -/
def Edit.apply (t : Text) : Edit → Text
  | .insert i c => t.insertIdx i c
  | .delete i => t.eraseIdx i
  | .substitute i c => t.set i c

/-- A text after the edits of a script, one `Edit.apply` after the other. -/
def edited (script : List Edit) (t : Text) : Text := script.foldl Edit.apply t

/-- The lengths of the scripts by which `s` is `edited` into `t`. -/
def scriptLengths (s t : Text) : Set Nat :=
  {n | ∃ script : List Edit, script.length = n ∧ edited script s = t}

/-- `Edit.apply` replaces a part of at most one character by another such part. -/
private theorem Edit.exists_parts (e : Edit) (s : Text) :
    ∃ a u u' b : Text, s = a ++ (u ++ b) ∧ e.apply s = a ++ (u' ++ b) ∧
      u.length ≤ 1 ∧ u'.length ≤ 1 := by
  -- Beyond the end of the text the part and what replaces it are empty.
  have hnothing : e.apply s = s → ∃ a u u' b : Text, s = a ++ (u ++ b) ∧
      e.apply s = a ++ (u' ++ b) ∧ u.length ≤ 1 ∧ u'.length ≤ 1 :=
    fun h => ⟨s, [], [], [], by simp, by simp [h], by simp, by simp⟩
  -- Within the text, the edit is at a position with a part before it and one behind it.
  cases e with
  | insert i c =>
    by_cases hi : i ≤ s.length
    · obtain ⟨a, b, hs, -, hinsert⟩ := List.exists_of_modifyTailIdx (List.cons c) hi
      exact ⟨a, [], [c], b, hs, hinsert, by simp, by simp⟩
    · exact hnothing (List.insertIdx_of_length_lt (by omega))
  | delete i =>
    by_cases hi : i < s.length
    · refine ⟨s.take i, [s[i]], [], s.drop (i + 1), by simp, ?_, by simp, by simp⟩
      simp [apply, List.eraseIdx_eq_take_drop_succ]
    · exact hnothing (List.eraseIdx_of_length_le (by omega))
  | substitute i c =>
    by_cases hi : i < s.length
    · refine ⟨s.take i, [s[i]], [c], s.drop (i + 1), by simp, ?_, by simp, by simp⟩
      simp [apply, List.set_eq_take_append_cons_drop, hi]
    · exact hnothing (List.set_eq_of_length_le (by omega))

/-- The same edit behind one more character. -/
def Edit.shift : Edit → Edit
  | .insert i c => .insert (i + 1) c
  | .delete i => .delete (i + 1)
  | .substitute i c => .substitute (i + 1) c

/-- Edits that are shifted with `Edit.shift` leave the first character alone. -/
private theorem edited_map_shift (script : List Edit) (c : Char) (s : Text) :
    edited (script.map Edit.shift) (c :: s) = c :: edited script s := by
  induction script generalizing s with
  | nil => rfl
  | cons e script ih =>
    have happly : e.shift.apply (c :: s) = c :: e.apply s := by
      cases e <;> simp [Edit.shift, Edit.apply]
    simp only [edited, List.map_cons, List.foldl_cons, happly] at ih ⊢
    exact ih (e.apply s)

/-! ## Alignments -/

/-- `Aligns s t n`: the texts `s` and `t` are written below each other at cost `n`, one for each
    column that does not hold the same character twice. -/
inductive Aligns : Text → Text → Nat → Prop
  | nil : Aligns [] [] 0
  | keep (c : Char) {s t : Text} {n : Nat} (h : Aligns s t n) : Aligns (c :: s) (c :: t) n
  | substitute (c d : Char) {s t : Text} {n : Nat} (h : Aligns s t n) :
      Aligns (c :: s) (d :: t) (n + 1)
  | delete (c : Char) {s t : Text} {n : Nat} (h : Aligns s t n) : Aligns (c :: s) t (n + 1)
  | insert (d : Char) {s t : Text} {n : Nat} (h : Aligns s t n) : Aligns s (d :: t) (n + 1)

namespace Aligns

variable {s t s' t' : Text} {m n : Nat}

/-- A text below itself has no differences. -/
theorem refl (s : Text) : Aligns s s 0 := by
  induction s with
  | nil => exact .nil
  | cons c s ih => exact .keep c ih

/-- Any two texts can be aligned, character below character, with gaps below what is longer. -/
private theorem max_length (s t : Text) : Aligns s t (max s.length t.length) := by
  induction s generalizing t with
  | nil =>
    induction t with
    | nil => exact .nil
    | cons d t ih => simpa using ih.insert d
  | cons c s ih =>
    -- There is a character below as long as the other text has one.
    cases t with
    | nil => simpa using (ih []).delete c
    | cons d t => simpa [Nat.succ_max_succ] using (ih t).substitute c d

/-- A text that `Aligns` with another one is longer by at most the cost. -/
theorem length_le (h : Aligns s t n) : t.length ≤ s.length + n := by
  induction h with
  | nil => simp
  | keep c _ ih => simp only [List.length_cons]; omega
  | substitute c d _ ih => simp only [List.length_cons]; omega
  | delete c _ ih => simp only [List.length_cons]; omega
  | insert d _ ih => simp only [List.length_cons]; omega

/-- `Aligns` goes part by part, and the costs are added. -/
theorem append (h : Aligns s t m) (h' : Aligns s' t' n) :
    Aligns (s ++ s') (t ++ t') (m + n) := by
  induction h with
  | nil => simpa using h'
  | keep c _ ih => exact ih.keep c
  | substitute c d _ ih => simpa [Nat.add_right_comm] using ih.substitute c d
  | delete c _ ih => simpa [Nat.add_right_comm] using ih.delete c
  | insert d _ ih => simpa [Nat.add_right_comm] using ih.insert d

/-- What `Aligns` with `a ++ b` is made of a part aligned with `a` and one aligned with `b`. -/
private theorem exists_of_append {a b t : Text} {n : Nat} (h : Aligns (a ++ b) t n) :
    ∃ t₁ t₂ m k, t = t₁ ++ t₂ ∧ n = m + k ∧ Aligns a t₁ m ∧ Aligns b t₂ k := by
  induction a generalizing t n with
  | nil => exact ⟨[], t, 0, n, rfl, by simp, .nil, h⟩
  | cons c a iha =>
    -- What is inserted in front belongs to the first part, so each case has a hypothesis to use.
    induction t generalizing n with
    | nil =>
      cases h with
      | delete _ h =>
        obtain ⟨t₁, t₂, m, k, ht, rfl, h₁, h₂⟩ := iha h
        exact ⟨t₁, t₂, m + 1, k, ht, by omega, h₁.delete c, h₂⟩
    | cons d t iht =>
      cases h with
      | keep _ h =>
        obtain ⟨t₁, t₂, m, k, rfl, rfl, h₁, h₂⟩ := iha h
        exact ⟨c :: t₁, t₂, m, k, rfl, rfl, h₁.keep c, h₂⟩
      | substitute _ _ h =>
        obtain ⟨t₁, t₂, m, k, rfl, rfl, h₁, h₂⟩ := iha h
        exact ⟨d :: t₁, t₂, m + 1, k, rfl, by omega, h₁.substitute c d, h₂⟩
      | delete _ h =>
        obtain ⟨t₁, t₂, m, k, ht, rfl, h₁, h₂⟩ := iha h
        exact ⟨t₁, t₂, m + 1, k, ht, by omega, h₁.delete c, h₂⟩
      | insert _ h =>
        obtain ⟨t₁, t₂, m, k, rfl, rfl, h₁, h₂⟩ := iht h
        exact ⟨d :: t₁, t₂, m + 1, k, rfl, by omega, h₁.insert d, h₂⟩

/-- `Aligns` can be read from either end. -/
theorem reverse (h : Aligns s t n) : Aligns s.reverse t.reverse n := by
  induction h with
  | nil => exact .nil
  | keep c _ ih => simpa using ih.append (.keep c .nil)
  | substitute c d _ ih => simpa using ih.append (.substitute c d .nil)
  | delete c _ ih => simpa using ih.append (.delete c .nil)
  | insert d _ ih => simpa using ih.append (.insert d .nil)

/-- `Aligns` is symmetric: what is inserted one way is deleted the other way. -/
theorem symm (h : Aligns s t n) : Aligns t s n := by
  induction h with
  | nil => exact .nil
  | keep c _ ih => exact ih.keep c
  | substitute c d _ ih => exact ih.substitute d c
  | delete c _ ih => exact ih.insert c
  | insert d _ ih => exact ih.delete d

/-! ### Alignments and scripts -/

/-- Undoing one `Edit` costs one at most. -/
private theorem of_edit {e : Edit} (h : Aligns (e.apply s) t n) : ∃ m ≤ n + 1, Aligns s t m := by
  obtain ⟨a, u, u', b, hs, he, hu, hu'⟩ := e.exists_parts s
  rw [he] at h
  obtain ⟨t₁, t₂, m, k, rfl, rfl, ha, h⟩ := h.exists_of_append
  obtain ⟨t₂, t₃, l, k, rfl, rfl, hu₂, hb⟩ := h.exists_of_append
  -- The part that was replaced is aligned anew with what the other one was aligned with.
  have hlength := hu₂.length_le
  refine ⟨m + (max u.length t₂.length + k), by omega, ?_⟩
  rw [hs]
  exact ha.append ((max_length u t₂).append hb)

/-- What `Aligns` at some cost is made by a script of that length, one difference at a time. -/
theorem exists_script (h : Aligns s t n) :
    ∃ script : List Edit, script.length = n ∧ edited script s = t := by
  -- By induction on the columns; edits behind the first column are shifted by it.
  induction h with
  | nil => exact ⟨[], rfl, rfl⟩
  | keep c _ ih =>
    obtain ⟨script, rfl, rfl⟩ := ih
    exact ⟨script.map .shift, by simp, edited_map_shift script c _⟩
  | substitute c d _ ih =>
    obtain ⟨script, rfl, rfl⟩ := ih
    exact ⟨.substitute 0 d :: script.map .shift, by simp, edited_map_shift script d _⟩
  | delete c _ ih =>
    obtain ⟨script, rfl, rfl⟩ := ih
    exact ⟨.delete 0 :: script, by simp, rfl⟩
  | insert d _ ih =>
    obtain ⟨script, rfl, rfl⟩ := ih
    exact ⟨.insert 0 d :: script.map .shift, by simp, edited_map_shift script d _⟩

end Aligns

/-- No script is shorter than the best alignment. -/
theorem exists_aligns_of_edited {script : List Edit} {s t : Text} (h : edited script s = t) :
    ∃ n ≤ script.length, Aligns s t n := by
  induction script generalizing s with
  | nil =>
    subst h
    exact ⟨0, le_refl 0, .refl s⟩
  | cons e script ih =>
    -- The edits behind the first one are undone first.
    obtain ⟨n, hn, haligns⟩ := ih h
    obtain ⟨m, hm, haligns⟩ := haligns.of_edit
    exact ⟨m, by simp only [List.length_cons]; omega, haligns⟩

/-! ## Rows -/

/-- `n` is the least cost at which `s` and `t` can be aligned. -/
def LeastCost (s t : Text) (n : Nat) : Prop := IsLeast {m | Aligns s t m} n

/-- A `LeastCost` is the length of a shortest script. -/
private theorem LeastCost.isLeast_scriptLengths {s t : Text} {n : Nat} (h : LeastCost s t n) :
    IsLeast (scriptLengths s t) n := by
  refine ⟨h.1.exists_script, ?_⟩
  rintro _ ⟨script, rfl, hscript⟩
  obtain ⟨m, hm, haligns⟩ := exists_aligns_of_edited hscript
  exact (h.2 haligns).trans hm

/-- Above an empty text stands one gap for each character. -/
private theorem leastCost_nil_left (t : Text) : LeastCost [] t t.length := by
  refine ⟨by simpa using Aligns.max_length [] t, fun n h => ?_⟩
  simpa using Aligns.length_le h

/-- With an empty text below it is the same. -/
private theorem leastCost_nil_right (s : Text) : LeastCost s [] s.length := by
  refine ⟨by simpa using Aligns.max_length s [], fun n h => ?_⟩
  simpa using Aligns.length_le (Aligns.symm h)

/-- An alignment ends with a gap below, a gap above, or two characters. -/
private theorem Aligns.concat_cases {s t : Text} {c d : Char} {n : Nat}
    (h : Aligns (s ++ [c]) (t ++ [d]) n) :
    (∃ m, Aligns (s ++ [c]) t m ∧ n = m + 1) ∨ (∃ m, Aligns s (t ++ [d]) m ∧ n = m + 1) ∨
      ∃ m, Aligns s t m ∧ m + (if c = d then 0 else 1) ≤ n := by
  -- The last columns are the first ones from the other end.
  have hreverse := h.reverse
  simp only [List.reverse_append, List.reverse_singleton, List.singleton_append] at hreverse
  cases hreverse with
  | keep _ hrest => exact .inr (.inr ⟨n, by simpa using hrest.reverse, by simp⟩)
  | substitute _ _ hrest =>
    refine .inr (.inr ⟨_, by simpa using hrest.reverse, ?_⟩)
    split <;> omega
  | delete _ hrest => exact .inr (.inl ⟨_, by simpa using hrest.reverse, rfl⟩)
  | insert _ hrest => exact .inl ⟨_, by simpa using hrest.reverse, rfl⟩

/-- The `LeastCost` of two texts with a last character comes from those without one of them, or
    without both. -/
theorem LeastCost.concat {s t : Text} {c d : Char} {left above diagonal : Nat}
    (hleft : LeastCost (s ++ [c]) t left) (habove : LeastCost s (t ++ [d]) above)
    (hdiagonal : LeastCost s t diagonal) :
    LeastCost (s ++ [c]) (t ++ [d])
      (min (min (left + 1) (above + 1)) (diagonal + if c = d then 0 else 1)) := by
  constructor
  · -- Each of the three alignments is one more column longer.
    have hinsert : Aligns (s ++ [c]) (t ++ [d]) (left + 1) := by
      simpa using hleft.1.append (.insert d .nil)
    have hdelete : Aligns (s ++ [c]) (t ++ [d]) (above + 1) := by
      simpa using habove.1.append (.delete c .nil)
    have hboth : Aligns (s ++ [c]) (t ++ [d]) (diagonal + if c = d then 0 else 1) := by
      split
      · rename_i hcd
        exact hdiagonal.1.append (hcd ▸ .refl [c])
      · exact hdiagonal.1.append (.substitute c d .nil)
    exact min_rec' _ (min_rec' _ hinsert hdelete) hboth
  · intro n h
    -- Any alignment ends in one of the three ways, and what is left of it cannot cost less.
    rcases Aligns.concat_cases h with ⟨m, hm, rfl⟩ | ⟨m, hm, rfl⟩ | ⟨m, hm, hn⟩
    · have hle := hleft.2 hm
      omega
    · have hle := habove.2 hm
      omega
    · have hle := hdiagonal.2 hm
      omega

/-- A row of least costs, from `s` to each beginning of `t ++ rest` that goes beyond `t`. -/
inductive Row (s : Text) : (t rest : Text) → List Nat → Prop
  | nil (t : Text) : Row s t [] []
  | cons {t rest : Text} {c : Char} {n : Nat} {row : List Nat} (h : LeastCost s (t ++ [c]) n)
      (hrow : Row s (t ++ [c]) rest row) : Row s t (c :: rest) (n :: row)

/-- A whole row begins with the cost of the empty beginning. -/
def WholeRow (s target : Text) : List Nat → Prop
  | [] => False
  | n :: row => LeastCost s [] n ∧ Row s [] target row

/-- `Text.rowAfter` computes the `Row` of a text with one more character from the row above it. -/
theorem Row.rowAfter {s t rest : Text} {row : List Nat} (h : Row s t rest row) {c : Char}
    {left diagonal : Nat} (hleft : LeastCost (s ++ [c]) t left)
    (hdiagonal : LeastCost s t diagonal) :
    Row (s ++ [c]) t rest (Text.rowAfter c left diagonal rest row) := by
  induction h generalizing left diagonal with
  | nil t => exact .nil t
  | cons habove _ ih =>
    -- What is computed here stands to the left of the next one, and what is above before it.
    have hhere := hleft.concat habove hdiagonal
    exact .cons hhere (ih hhere habove)

/-- `Text.nextRow` computes the next `WholeRow`. -/
theorem WholeRow.nextRow {s target : Text} {row : List Nat} (h : WholeRow s target row)
    (c : Char) : WholeRow (s ++ [c]) target (Text.nextRow target row c) := by
  cases row with
  | nil => exact h
  | cons diagonal row =>
    obtain ⟨hdiagonal, hrow⟩ := h
    -- The first entry counts the characters of the source.
    have hlength : diagonal = s.length := hdiagonal.unique (leastCost_nil_right s)
    have hleft : LeastCost (s ++ [c]) [] (diagonal + 1) := by
      rw [hlength]
      simpa using leastCost_nil_right (s ++ [c])
    exact ⟨hleft, hrow.rowAfter hleft hdiagonal⟩

/-- Of an empty text, the costs are the lengths of the beginnings. -/
private theorem row_range' (t rest : Text) :
    Row [] t rest (List.range' (t.length + 1) rest.length) := by
  induction rest generalizing t with
  | nil => exact .nil t
  | cons c rest ih =>
    -- One gap for each character of the beginning.
    have hcost : LeastCost [] (t ++ [c]) (t.length + 1) := by
      simpa using leastCost_nil_left (t ++ [c])
    have hrow := ih (t ++ [c])
    rw [List.length_append, List.length_singleton] at hrow
    rw [List.length_cons, List.range'_succ]
    exact .cons hcost hrow

/-- `firstRow` is the `WholeRow` of the empty text. -/
private theorem wholeRow_firstRow (target : Text) : WholeRow [] target (firstRow target) := by
  rw [firstRow, List.range_eq_range', List.range'_succ]
  exact ⟨leastCost_nil_left [], row_range' [] target⟩

/-- Going through a text with `Text.nextRow` gives the `WholeRow` of that text. -/
theorem WholeRow.foldl {s target : Text} {row : List Nat} (h : WholeRow s target row)
    (source : Text) :
    WholeRow (s ++ source) target (source.foldl (Text.nextRow target) row) := by
  induction source generalizing s row with
  | nil => simpa using h
  | cons c source ih => simpa using ih (h.nextRow c)

/-- The last entry of a `Row` belongs to the whole target. -/
theorem Row.getLastD {s t rest : Text} {row : List Nat} (h : Row s t rest row) {n : Nat}
    (hn : LeastCost s t n) : LeastCost s (t ++ rest) (row.getLastD n) := by
  induction h generalizing n with
  | nil t => simpa using hn
  | cons hcost _ ih =>
    rw [List.getLastD_cons]
    simpa using ih hcost

/-- `editDistance` computes the least cost of an alignment. -/
theorem leastCost_editDistance (source target : Text) :
    LeastCost source target (editDistance source target) := by
  have hrow := (wholeRow_firstRow target).foldl source
  rw [editDistance]
  -- A whole row is never empty.
  cases hfold : source.foldl (Text.nextRow target) (firstRow target) with
  | nil =>
    rw [hfold] at hrow
    exact hrow.elim
  | cons n row =>
    rw [hfold] at hrow
    rw [List.getLastD_cons]
    exact hrow.2.getLastD hrow.1

/-- `editDistance` computes the length of a shortest script. -/
theorem isLeast_editDistance (source target : Text) :
    IsLeast (scriptLengths source target) (editDistance source target) :=
  (leastCost_editDistance source target).isLeast_scriptLengths

end Facets.Text
