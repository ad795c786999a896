import Facets.FileTree
import Mathlib.Data.List.Infix
import Mathlib.Tactic.SplitIfs

/-!
# Laws of trees of files

`FileTree.insert` changes what is found at one location and below it, and makes directories of
what is above.  From this follow two kinds of laws for the operations on paths.

What is a directory stays one (`KeepsDirectories`), so that a path leads to the same location
afterwards, its parent need not be made again, and a file that was written can be read
(`HoldsFile`) and written again (`Writable`).

The files that a tree has (`fileAt?`) stay as they are where directories are made, and where a
file is written all but this one do.  For no file is on the way to the location.
-/

namespace Facets.FileTree

variable {t t' new : FileTree} {l m : Location} {path content : Text} {made : Bool}

/-! ## What is found after an insertion -/

/-- `find?` goes along a location part by part. -/
private theorem find?_append (t : FileTree) (l k : Location) :
    t.find? (l ++ k) = (t.find? l).bind fun e => e.find? k := by
  induction l generalizing t with
  | nil => rfl
  | cons name l ih =>
    rw [List.cons_append, find?, find?]
    cases Keyed.get? Prod.fst name t.entries with
    | none => rfl
    | some e => exact ih e.2

/-- Below the location of an `insert`, what is in the inserted tree is found. -/
private theorem find?_insert_append (t new : FileTree) (l k : Location) :
    (t.insert new l).find? (l ++ k) = new.find? k := by
  rw [find?_append, find?_insert]
  rfl

/-- Above the location of an `insert` are directories. -/
private theorem find?_insert_above (t new : FileTree) (m : Location) (name : Text) (k : Location) :
    ∃ es, (t.insert new (m ++ name :: k)).find? m = some (.directory es) := by
  induction m generalizing t with
  | nil => exact ⟨_, rfl⟩
  | cons x m ih =>
    rw [List.cons_append, insert, find?]
    simp only [entries, Keyed.get?_putSorted, if_pos]
    exact ih _

/-- Beside the location of an `insert`, all is found as before. -/
private theorem find?_insert_beside (hm : ¬m <+: l) (hl : ¬l <+: m) :
    (t.insert new l).find? m = t.find? m := by
  -- By induction on the location; the two part at some name.
  induction l generalizing t m with
  | nil => exact absurd List.nil_prefix hl
  | cons name l ih =>
    cases m with
    | nil => exact absurd List.nil_prefix hm
    | cons x m =>
      rw [insert, find?, entries, Keyed.get?_putSorted, find?]
      by_cases hx : name = x
      · subst hx
        have hm' : ¬m <+: l := by simpa using hm
        have hl' : ¬l <+: m := by simpa using hl
        simp only [if_pos]
        cases Keyed.get? Prod.fst name t.entries with
        | some e => exact ih hm' hl'
        | none =>
          -- Nothing had this name, and its new directory has only what is on the way.
          show (empty.insert new l).find? m = none
          rw [ih hm' hl']
          cases m with
          | nil => exact absurd List.nil_prefix hm'
          | cons y m => rfl
      · simp only [if_neg hx]

/-- Nothing is below a file. -/
private theorem find?_file_cons (c : Text) (name : Text) (k : Location) :
    (file c).find? (name :: k) = none := rfl

/-- Nor is anything in an empty directory. -/
private theorem find?_empty_cons (name : Text) (k : Location) :
    empty.find? (name :: k) = none := rfl

/-! ## Looking up -/

/-- `lookup` depends on what `find?` finds only. -/
private theorem lookup_congr (h : t'.find? l = t.find? l) : t'.lookup l = t.lookup l := by
  simp only [lookup, h]

/-- `lookup` gives what `find?` finds, unless the name is too long for any tree. -/
private theorem lookup_of_find? {e : FileTree} (h : t'.find? l = some e)
    (hlong : t.lookup l ≠ .error .nameTooLong) : t'.lookup l = .ok e := by
  unfold lookup at hlong ⊢
  split
  · rename_i htoo
    -- A name that is too long is so in each tree.
    rw [if_pos htoo] at hlong
    exact absurd rfl hlong
  · rw [h]

/-- `lookup` gives what `find?` finds.  Where nothing is found there is nothing, or one of the
    directories that are always there. -/
private theorem lookup_cases (t : FileTree) (l : Location) :
    t.lookup l = .error .nameTooLong ∨ (∃ e, t.find? l = some e ∧ t.lookup l = .ok e) ∨
      t.find? l = none ∧ (t.lookup l = .ok empty ∨ t.lookup l = .error .notFound) := by
  unfold lookup
  split
  · exact .inl rfl
  · cases t.find? l with
    | some e => exact .inr (.inl ⟨e, rfl, rfl⟩)
    | none =>
      cases isBase l with
      | true => exact .inr (.inr ⟨rfl, .inl rfl⟩)
      | false => exact .inr (.inr ⟨rfl, .inr rfl⟩)

/-- A file that `lookup` gives is found. -/
private theorem find?_of_lookup_file (h : t.lookup l = .ok (.file content)) :
    t.find? l = some (.file content) := by
  rcases lookup_cases t l with hl | ⟨e, he, hl⟩ | ⟨-, hl | hl⟩
  · rw [hl] at h
    cases h
  · rw [hl] at h
    cases h
    exact he
  · rw [hl] at h
    cases h
  · rw [hl] at h
    cases h

/-- Where `lookup` finds nothing, there is nothing. -/
private theorem find?_of_lookup_notFound (h : t.lookup l = .error .notFound) :
    t.find? l = none := by
  rcases lookup_cases t l with hl | ⟨e, -, hl⟩ | ⟨hnone, -⟩
  · rw [hl] at h
    cases h
  · rw [hl] at h
    cases h
  · exact hnone

/-- Whether a directory is at a location. -/
def IsDirectory (t : FileTree) (l : Location) : Prop := ∃ es, t.lookup l = .ok (.directory es)

/-- Whether a file can be put at a location: there is one already, or there is nothing. -/
def TakesFile (t : FileTree) (l : Location) : Prop :=
  t.lookup l = .error .notFound ∨ ∃ content, t.lookup l = .ok (.file content)

/-- A location that `TakesFile` is no directory. -/
private theorem TakesFile.not_isDirectory (h : t.TakesFile l) : ¬t.IsDirectory l := by
  rintro ⟨es, hes⟩
  rcases h with h | ⟨content, h⟩
  · rw [hes] at h
    cases h
  · rw [hes] at h
    cases h

/-- Nothing is below a location that `TakesFile`. -/
private theorem TakesFile.find?_below (h : t.TakesFile l) (name : Text) (k : Location) :
    t.find? (l ++ name :: k) = none := by
  rw [find?_append]
  rcases h with h | ⟨content, h⟩
  · rw [find?_of_lookup_notFound h]
    rfl
  · rw [find?_of_lookup_file h]
    rfl

/-- An `insert` where nothing is below, of a tree with nothing below, changes only what is found at
    the location and above it. -/
private theorem TakesFile.find?_insert_of_not_prefix (h : t.TakesFile l)
    (hnew : ∀ name k, new.find? (name :: k) = none) (hml : ¬m <+: l) :
    (t.insert new l).find? m = t.find? m := by
  by_cases hlm : l <+: m
  · -- What is below the location is not there before, nor afterwards.
    obtain ⟨k, rfl⟩ := hlm
    cases k with
    | nil => exact absurd (by simp) hml
    | cons name k => rw [find?_insert_append, hnew, h.find?_below]
  · exact find?_insert_beside hml hlm

/-- `lookup` gives what was inserted where a location `TakesFile`. -/
private theorem TakesFile.lookup_insert (h : t.TakesFile l) (new : FileTree) :
    (t.insert new l).lookup l = .ok new := by
  refine lookup_of_find? (t := t) (find?_insert t new l) fun hlong => ?_
  rcases h with h | ⟨content, h⟩
  · rw [h] at hlong
    cases hlong
  · rw [h] at hlong
    cases hlong

/-! ## Directories stay -/

/-- Whether all that is a directory in a tree is one in another tree, too. -/
def KeepsDirectories (t t' : FileTree) : Prop := ∀ l, t.IsDirectory l → t'.IsDirectory l

/-- A tree keeps its own directories. -/
theorem KeepsDirectories.refl (t : FileTree) : KeepsDirectories t t := fun _ h => h

/-- What is kept twice is kept. -/
theorem KeepsDirectories.trans {t₁ t₂ t₃ : FileTree} (h : KeepsDirectories t₁ t₂)
    (h' : KeepsDirectories t₂ t₃) : KeepsDirectories t₁ t₃ := fun l hl => h' l (h l hl)

/-- An `insert` keeps the directories on the way to the location, or makes them anew. -/
theorem TakesFile.keepsDirectories (h : t.TakesFile l)
    (hnew : ∀ name k, new.find? (name :: k) = none) : KeepsDirectories t (t.insert new l) := by
  rintro m ⟨es, hm⟩
  by_cases hml : m <+: l
  · obtain ⟨k, rfl⟩ := hml
    cases k with
    | nil =>
      rw [List.append_nil] at h
      -- The location itself is no directory.
      exact absurd ⟨es, hm⟩ h.not_isDirectory
    | cons name k =>
      -- Above it there is one afterwards, whatever there was.
      obtain ⟨es', hes'⟩ := find?_insert_above t new m name k
      exact ⟨es', lookup_of_find? (t := t) hes' (by simp [hm])⟩
  · exact ⟨es, by rw [lookup_congr (h.find?_insert_of_not_prefix hnew hml), hm]⟩

/-- `follow` goes on with the next name just in a directory. -/
private theorem follow_cons_eq_ok {name : Text} {names : List Text} :
    t.follow l (name :: names) = .ok m ↔
      t.IsDirectory l ∧ t.follow (step l name) names = .ok m := by
  rw [follow]
  unfold IsDirectory
  cases t.lookup l with
  | error e => simp
  | ok e => cases e <;> simp

/-- `follow` leads to the same location as before where directories are kept. -/
theorem KeepsDirectories.follow (h : KeepsDirectories t t') {names : List Text}
    (hm : t.follow l names = .ok m) : t'.follow l names = .ok m := by
  induction names generalizing l with
  | nil => exact hm
  | cons name names ih =>
    rw [follow_cons_eq_ok] at hm ⊢
    exact ⟨h l hm.1, ih hm.2⟩

/-- `locate` follows the names of a path, unless this is empty or too long. -/
theorem locate_eq_ok :
    t.locate path = .ok l ↔
      path ≠ [] ∧ Text.byteLength path ≤ pathLimit ∧ t.follow [] (pathNames path) = .ok l := by
  unfold locate
  split
  · simp_all
  · split
    · rename_i hlong
      simp [Nat.not_le.mpr hlong]
    · rename_i hne hshort
      simp [hne, Nat.not_lt.mp hshort]

/-- `locate` leads to the same location as before where directories are kept. -/
theorem KeepsDirectories.locate (h : KeepsDirectories t t') (hl : t.locate path = .ok l) :
    t'.locate path = .ok l := by
  rw [locate_eq_ok] at hl ⊢
  exact ⟨hl.1, hl.2.1, h.follow hl.2.2⟩

/-- `makeFrom` passes a directory that is there. -/
private theorem makeFrom_of_isDirectory {name : Text} (h : t.IsDirectory (step l name))
    (made : Bool) (names : List Text) :
    t.makeFrom l made (name :: names) = t.makeFrom (step l name) made names := by
  obtain ⟨es, hes⟩ := h
  rw [makeFrom]
  simp only [hes]

/-- `makeFrom` keeps all directories, even where it fails. -/
theorem keepsDirectories_of_makeFrom {names : List Text} {e? : Option FileError}
    (h : t.makeFrom l made names = (t', e?)) : KeepsDirectories t t' := by
  induction names generalizing t l made with
  | nil =>
    cases h
    exact .refl _
  | cons name names ih =>
    rw [makeFrom] at h
    split at h
    · exact ih h
    · cases h
      exact .refl _
    · rename_i hnone
      -- Only here the tree changes: a directory is made where nothing was.
      have hinsert := TakesFile.keepsDirectories (.inl hnone) find?_empty_cons
      exact hinsert.trans (ih h)
    · cases h
      exact .refl _

/-- Directories that `makeFrom` has made are all there when they are to be made again. -/
private theorem makeFrom_again {names : List Text} (h : t.makeFrom l made names = (t', none))
    {t'' : FileTree} (hkeep : KeepsDirectories t' t'') (made' : Bool) :
    t''.makeFrom l made' names = (t'', none) := by
  induction names generalizing t l made made' with
  | nil => rfl
  | cons name names ih =>
    rw [makeFrom] at h
    split at h
    · rename_i es hes
      -- It was there already, and has been kept.
      have hthere : t''.IsDirectory (step l name) :=
        hkeep _ (keepsDirectories_of_makeFrom h _ ⟨es, hes⟩)
      rw [makeFrom_of_isDirectory hthere]
      exact ih h made'
    · cases h
    · rename_i hnone
      -- It was made, and what was made after it has kept it.
      have hmade : (t.insert empty (step l name)).IsDirectory (step l name) :=
        ⟨[], TakesFile.lookup_insert (.inl hnone) empty⟩
      have hthere : t''.IsDirectory (step l name) :=
        hkeep _ (keepsDirectories_of_makeFrom h _ hmade)
      rw [makeFrom_of_isDirectory hthere]
      exact ih h made'
    · cases h

/-- So are those that `makeParent` has made. -/
theorem makeParent_again (h : t.makeParent path = (t', none)) {t'' : FileTree}
    (hkeep : KeepsDirectories t' t'') : t''.makeParent path = (t'', none) := by
  unfold makeParent makeDirectories at h ⊢
  split at h
  · cases h
  · rename_i hshort
    rw [if_neg hshort]
    exact makeFrom_again h hkeep false

/-! ## Writing and reading -/

/-- `write` succeeds just where the path leads to a location that `TakesFile` and does not end in a
    slash, and inserts the file there. -/
theorem write_eq_ok :
    t.write path content = .ok t' ↔
      ∃ l, t.locate path = .ok l ∧ endsInSlash path = false ∧ t.TakesFile l ∧
        t' = t.insert (.file content) l := by
  unfold write TakesFile
  simp only [bind, Except.bind, throw, throwThe, MonadExceptOf.throw, pure, Except.pure]
  cases t.locate path with
  | error e => simp
  | ok l =>
    cases endsInSlash path with
    | true => simp
    | false =>
      -- What is there decides: a file is replaced, a directory is not.
      cases hl : t.lookup l with
      | error e => cases e <;> simp [hl, eq_comm]
      | ok e => cases e <;> simp [hl, eq_comm]

/-- Whether a file can be written at a path, once the directories above it are made. -/
def Writable (t : FileTree) (path : Text) : Prop :=
  ∃ made t', t.makeParent path = (made, none) ∧ made.write path [] = .ok t'

/-- Whether a path leads to a file with some content, in a directory that need not be made. -/
structure HoldsFile (t : FileTree) (path content : Text) : Prop where
  parent : t.makeParent path = (t, none)
  noSlash : endsInSlash path = false
  located : ∃ l, t.locate path = .ok l ∧ t.lookup l = .ok (.file content)

/-- After `write` the path `HoldsFile` with the content. -/
theorem holdsFile_of_write (hparent : t.makeParent path = (t, none))
    (h : t.write path content = .ok t') : t'.HoldsFile path content := by
  obtain ⟨l, hl, hslash, htakes, rfl⟩ := write_eq_ok.mp h
  have hkeep := htakes.keepsDirectories (find?_file_cons content)
  exact ⟨makeParent_again hparent hkeep, hslash, l, hkeep.locate hl, htakes.lookup_insert _⟩

namespace HoldsFile

variable (h : t.HoldsFile path content)
include h

/-- `stat` finds a file that a path holds. -/
private theorem stat_eq : t.stat path = .ok (.file content) := by
  obtain ⟨l, hl, hfile⟩ := h.located
  simp [stat, hl, hfile, h.noSlash, bind, Except.bind, pure, Except.pure]

/-- `pathExists` knows a file that a path holds. -/
theorem pathExists_eq : t.pathExists path = true := by
  rw [pathExists, h.stat_eq]
  rfl

/-- `read` gives the content of a file that a path holds. -/
theorem read_eq : t.read path = .ok content := by
  rw [read, h.stat_eq]
  rfl

/-- A file that a path holds can be written again. -/
theorem writable : t.Writable path := by
  obtain ⟨l, hl, hfile⟩ := h.located
  have hwrite : t.write path [] = .ok (t.insert (.file []) l) :=
    write_eq_ok.mpr ⟨l, hl, h.noSlash, .inr ⟨content, hfile⟩, rfl⟩
  exact ⟨t, _, h.parent, hwrite⟩

end HoldsFile

/-- A path that is `Writable` holds whatever is written there. -/
theorem Writable.exists_holdsFile (h : t.Writable path) (content : Text) :
    ∃ made t', t.makeParent path = (made, none) ∧ made.write path content = .ok t' ∧
      t'.HoldsFile path content := by
  obtain ⟨made, _, hparent, hwrite⟩ := h
  obtain ⟨l, hl, hslash, htakes, -⟩ := write_eq_ok.mp hwrite
  have hwrite' : made.write path content = .ok (made.insert (.file content) l) :=
    write_eq_ok.mpr ⟨l, hl, hslash, htakes, rfl⟩
  have hagain : made.makeParent path = (made, none) := makeParent_again hparent (.refl made)
  exact ⟨made, _, hparent, hwrite', holdsFile_of_write hagain hwrite'⟩

/-! ## Files stay -/

/-- The content of the file at a location, if there is one. -/
def fileAt? (t : FileTree) (l : Location) : Option Text := (t.find? l).bind content?

/-- A directory is no file. -/
private theorem fileAt?_of_isDirectory (h : t.IsDirectory l) : t.fileAt? l = none := by
  obtain ⟨es, h⟩ := h
  unfold fileAt?
  rcases lookup_cases t l with hl | ⟨e, he, hl⟩ | ⟨hnone, -⟩
  · rw [hl] at h
    cases h
  · rw [hl] at h
    cases h
    rw [he]
    rfl
  · -- One of the directories that are always there is not in the tree.
    rw [hnone]
    rfl

/-- Whether no file is above a location. -/
def ClearAbove (t : FileTree) (l : Location) : Prop :=
  ∀ m, m <+: l → m ≠ l → t.fileAt? m = none

/-- Nothing at all is above the location `[]`. -/
private theorem clearAbove_nil (t : FileTree) : t.ClearAbove [] :=
  fun _ hm hne => absurd (List.prefix_nil.mp hm) hne

/-- `step` leads to a location above, or to one right below. -/
private theorem prefix_step {name : Text} (h : m <+: step l name) : m <+: l ∨ m = step l name := by
  have hlast (x : Text) (hx : m <+: l ++ [x]) : m <+: l ∨ m = l ++ [x] :=
    (List.prefix_concat_iff.mp hx).symm
  unfold step at h ⊢
  split_ifs at h ⊢
  · exact .inl h
  · exact .inl h
  · exact hlast up h
  · exact .inl (h.trans (List.dropLast_prefix l))
  · exact hlast name h

/-- A `step` from where no file is, nor above, has none above. -/
private theorem ClearAbove.step (h : t.ClearAbove l) (hl : t.fileAt? l = none) (name : Text) :
    t.ClearAbove (step l name) := by
  intro m hm hne
  have hml : m <+: l := (prefix_step hm).resolve_right hne
  -- What is above the new location is the old one, or above that.
  by_cases heq : m = l
  · rw [heq, hl]
  · exact h m hml heq

/-- `follow` passes directories only, so no file is above where it leads. -/
theorem ClearAbove.follow (h : t.ClearAbove l) {names : List Text}
    (hm : t.follow l names = .ok m) : t.ClearAbove m := by
  induction names generalizing l with
  | nil =>
    cases hm
    exact h
  | cons name names ih =>
    obtain ⟨hdirectory, hrest⟩ := follow_cons_eq_ok.mp hm
    exact ih (h.step (fileAt?_of_isDirectory hdirectory) name) hrest

/-- No file is above the location that `locate` gives. -/
private theorem clearAbove_of_locate (h : t.locate path = .ok l) : t.ClearAbove l :=
  (clearAbove_nil t).follow (locate_eq_ok.mp h).2.2

/-- An `insert` with no file above changes what file is at the location, and no other file. -/
theorem TakesFile.fileAt?_insert (h : t.TakesFile l) (habove : t.ClearAbove l)
    (hnew : ∀ name k, new.find? (name :: k) = none) (m : Location) :
    (t.insert new l).fileAt? m = if m = l then new.content? else t.fileAt? m := by
  by_cases heq : m = l
  · subst heq
    rw [if_pos rfl, fileAt?, find?_insert]
    rfl
  rw [if_neg heq]
  by_cases hml : m <+: l
  · -- There is a directory afterwards, and there was no file before.
    rw [habove m hml heq]
    obtain ⟨k, rfl⟩ := hml
    cases k with
    | nil => exact absurd (List.append_nil m).symm heq
    | cons name k =>
      obtain ⟨es, hes⟩ := find?_insert_above t new m name k
      rw [fileAt?, hes]
      rfl
  · rw [fileAt?, fileAt?, h.find?_insert_of_not_prefix hnew hml]

/-- A new directory where nothing was changes no file. -/
private theorem fileAt?_insert_empty (h : t.lookup l = .error .notFound) (habove : t.ClearAbove l) :
    (t.insert empty l).fileAt? = t.fileAt? := by
  funext m
  rw [TakesFile.fileAt?_insert (.inl h) habove find?_empty_cons]
  split
  · rename_i heq
    rw [heq, fileAt?, find?_of_lookup_notFound h]
    rfl
  · rfl

/-- `makeFrom` changes no file, even where it fails. -/
theorem fileAt?_makeFrom (habove : t.ClearAbove l) (hl : t.fileAt? l = none) (made : Bool)
    (names : List Text) : (t.makeFrom l made names).1.fileAt? = t.fileAt? := by
  induction names generalizing t l made with
  | nil => rfl
  | cons name names ih =>
    have hstep := habove.step hl name
    rw [makeFrom]
    split
    · rename_i es hes
      exact ih hstep (fileAt?_of_isDirectory ⟨es, hes⟩) made
    · rfl
    · rename_i hnone
      -- The new directory is where nothing was, so the others can be made as if it were not there.
      have hsame := fileAt?_insert_empty hnone hstep
      have hstep' : (t.insert empty (step l name)).ClearAbove (step l name) := by
        unfold ClearAbove
        rw [hsame]
        exact hstep
      have hmade : (t.insert empty (step l name)).fileAt? (step l name) = none := by
        rw [fileAt?, find?_insert]
        rfl
      rw [ih hstep' hmade true, hsame]
    · rfl

/-- `makeParent` changes no file, even where it fails. -/
theorem fileAt?_makeParent (es : List (Text × FileTree)) (path : Text) :
    ((directory es).makeParent path).1.fileAt? = (directory es).fileAt? := by
  unfold makeParent makeDirectories
  split
  · rfl
  · exact fileAt?_makeFrom (clearAbove_nil _) rfl false _

/-- `write` changes the file that the path leads to, and no other one. -/
theorem fileAt?_write (h : t.write path content = .ok t') :
    ∃ l, t'.locate path = .ok l ∧
      ∀ m, t'.fileAt? m = if m = l then some content else t.fileAt? m := by
  obtain ⟨l, hl, -, htakes, rfl⟩ := write_eq_ok.mp h
  -- The location is the same after the file is written, which is no directory.
  have hnew := find?_file_cons content
  exact ⟨l, (htakes.keepsDirectories hnew).locate hl,
    htakes.fileAt?_insert (clearAbove_of_locate hl) hnew⟩

end Facets.FileTree
