import Facets.Toml.Reader

/-!
# Reading strings that were written in TOML

`Toml.quote` writes a text in one of four ways, and `Toml.readQuoted?` reads each of them back,
whatever characters the text consists of (`Toml.readQuoted?_quote`).

Between single marks this goes character by character.  Between triple marks it does not: a mark
belongs to the string or begins its end, depending on the two characters after it.  `Toml.Lines`
says what may stand there, so that only the very last marks are open to doubt, and both kinds
of triple marks are read through it (`Toml.Lines.read`).
-/

namespace Facets.Toml

/-! ## Characters -/

/-- A character that is no `isControl` is `isPrintable`, the line feed apart. -/
private theorem isPrintable_of_isControl_eq_false {c : Char} (h : isControl c = false)
    (hlf : c ≠ '\n') : isPrintable c = true := by
  simp only [isControl, Bool.or_eq_false_iff, Bool.and_eq_false_iff, decide_eq_false_iff_not,
    bne_eq_false_iff_eq, beq_eq_false_iff_ne] at h
  obtain ⟨(h | h) | h, h7f⟩ := h
  · have hspace : 0x20 ≤ c.toNat := by omega
    simp [isPrintable, h7f, hspace]
  · simp [isPrintable, h]
  · exact absurd h hlf

/-- `readLineEnd?` finds no line end at any character but these two. -/
theorem readLineEnd?_cons {c : Char} (hlf : c ≠ '\n') (hcr : c ≠ '\r') (t : Text) :
    readLineEnd? (c :: t) = none := by
  unfold readLineEnd?
  split <;> simp_all

private theorem ne_cr_of_isControl_eq_false {c : Char} (h : isControl c = false) : c ≠ '\r' := by
  rintro rfl
  exact absurd h (by decide)

/-- `readCodePoint?` reads four digits as the character of their number. -/
private theorem readCodePoint?_four {a b c d : Char} {n : Nat}
    (hn : Text.numeral? 16 [a, b, c, d] = some n) (hvalid : n.isValidChar) (rest : Text) :
    readCodePoint? 4 (a :: b :: c :: d :: rest) = some (Char.ofNat n, rest) := by
  have hlength : ¬(a :: b :: c :: d :: rest).length < 4 := by simp
  rw [readCodePoint?, if_neg hlength]
  show Option.map _ (Option.filter _ (Text.numeral? 16 [a, b, c, d])) = _
  have hkeep : decide n.isValidChar = true := decide_eq_true hvalid
  simp only [hn, Option.filter_some, hkeep, if_true, Option.map_some]
  rfl

/-- `escapeChar` writes a character as itself, or as an escape that `readEscape?` reads back.  No
    escape begins like the end of a line. -/
theorem escapeChar_spec (c : Char) :
    (escapeChar c = [c] ∧ c ≠ '\\' ∧ isControl c = false) ∨
      ∃ e, escapeChar c = '\\' :: e ∧
        ∀ rest, readEscape? (e ++ rest) = some (c, rest) ∧ readJoinedLine? (e ++ rest) = none := by
  unfold escapeChar
  -- The short escapes.
  iterate 5
    split
    · rename_i h
      subst h
      exact .inr ⟨_, rfl, fun _ => ⟨rfl, rfl⟩⟩
  rename_i hbackslash
  split
  · -- The other control characters are written as four digits.
    rename_i hcontrol
    have hdigits : ∀ n < 0x80, Text.numeral? 16
        ['0', '0', Text.upperHex (n / 16), Text.upperHex (n % 16)] = some n := by decide
    have hsmall : c.toNat < 0x80 := by
      simp only [isControl, Bool.or_eq_true, Bool.and_eq_true, decide_eq_true_eq,
        beq_iff_eq] at hcontrol
      omega
    have hread := readCodePoint?_four (hdigits c.toNat hsmall) c.valid
    rw [Char.ofNat_toNat] at hread
    exact .inr ⟨_, rfl, fun rest => ⟨hread rest, rfl⟩⟩
  · rename_i hcontrol
    exact .inl ⟨rfl, hbackslash, by simpa using hcontrol⟩

/-! ## Single marks -/

/-- `readBasic?` reads an escape as the character that it stands for. -/
private theorem readBasic?_escape {e : Text} {c : Char} {t : Text}
    (h : readEscape? (e ++ t) = some (c, t)) :
    readBasic? ('\\' :: (e ++ t)) = (readBasic? t).map fun r => (c :: r.1, r.2) := by
  have hquote : '\\' ≠ '"' := by decide
  rw [readBasic?, if_neg hquote, if_pos rfl]
  split
  · rename_i hnone
    rw [hnone] at h
    cases h
  · rename_i hsome
    rw [hsome] at h
    cases h
    rfl

/-- `readBasic?` reads a printable character as itself. -/
private theorem readBasic?_printable {c : Char} (hquote : c ≠ '"') (hbackslash : c ≠ '\\')
    (hprint : isPrintable c = true) (t : Text) :
    readBasic? (c :: t) = (readBasic? t).map fun r => (c :: r.1, r.2) := by
  rw [readBasic?, if_neg hquote, if_neg hbackslash, if_pos hprint]

/-- `readBasic?` reads a text between quotation marks back up to the closing one. -/
private theorem readBasic?_escapeBasic (t rest : Text) :
    readBasic? (escapeBasic t ++ '"' :: rest) = some (t, rest) := by
  unfold escapeBasic
  induction t with
  | nil => rw [List.flatMap_nil, List.nil_append, readBasic?, if_pos rfl]
  | cons c t ih =>
    rw [List.flatMap_cons, List.append_assoc]
    -- The quotation mark and the line feed are escaped here, and all else as everywhere.
    by_cases hquote : c = '"'
    · subst hquote
      rw [if_pos rfl, List.cons_append, readBasic?_escape (c := '"') rfl, ih]
      rfl
    by_cases hlf : c = '\n'
    · subst hlf
      rw [if_neg hquote, if_pos rfl, List.cons_append, readBasic?_escape (c := '\n') rfl, ih]
      rfl
    rw [if_neg hquote, if_neg hlf]
    rcases escapeChar_spec c with ⟨hc, hbackslash, hcontrol⟩ | ⟨e, hc, hread⟩
    · have hprint := isPrintable_of_isControl_eq_false hcontrol hlf
      rw [hc, List.singleton_append, readBasic?_printable hquote hbackslash hprint, ih]
      rfl
    · rw [hc, List.cons_append, readBasic?_escape (hread _).1, ih]
      rfl

/-- `readLiteral?` reads a text between apostrophes as it is. -/
private theorem readLiteral?_append {t : Text} (hmark : '\'' ∉ t)
    (hprint : ∀ c ∈ t, isPrintable c = true) (rest : Text) :
    readLiteral? (t ++ '\'' :: rest) = some (t, rest) := by
  induction t with
  | nil => rfl
  | cons c t ih =>
    rw [List.mem_cons, not_or] at hmark
    rw [List.forall_mem_cons] at hprint
    simp [readLiteral?, Ne.symm hmark.1, hprint.1, ih hmark.2 hprint.2]

/-! ## Triple marks -/

/-- `Lines mark escapes t w`: between triple marks, `w` is written for the text `t`.  A mark that
    stands for itself does not have two more after it. -/
inductive Lines (mark : Char) (escapes : Bool) : Text → Text → Prop
  | nil : Lines mark escapes [] []
  | plain {c : Char} {t w : Text} (hmark : c ≠ mark) (hbackslash : ¬(c = '\\' ∧ escapes = true))
      (hcontrol : isControl c = false) (h : Lines mark escapes t w) :
      Lines mark escapes (c :: t) (c :: w)
  | escape {c : Char} {e t w : Text} (hescapes : escapes = true)
      (hread : ∀ rest, readEscape? (e ++ rest) = some (c, rest) ∧
        readJoinedLine? (e ++ rest) = none)
      (h : Lines mark escapes t w) : Lines mark escapes (c :: t) ('\\' :: (e ++ w))
  | mark {t w : Text} (hmarks : ¬[mark, mark] <+: w) (h : Lines mark escapes t w) :
      Lines mark escapes (mark :: t) (mark :: w)

/-- `readLines?` ends a string at three marks, but up to two marks after them belong to it. -/
private theorem readLines?_close (mark : Char) (escapes : Bool) (t : Text) :
    readLines? mark escapes (mark :: mark :: mark :: t) = some (readClosing mark t) := by
  rw [readLines?]
  simp

/-- `readLines?` reads a mark as itself, unless two more follow it. -/
private theorem readLines?_mark {mark d e : Char} (escapes : Bool) {t : Text}
    (h : ¬(d = mark ∧ e = mark)) :
    readLines? mark escapes (mark :: d :: e :: t) =
      (readLines? mark escapes (d :: e :: t)).map fun r => (mark :: r.1, r.2) := by
  rw [readLines?, if_pos rfl]
  simp [h]

/-- `readLines?` reads a character as itself that is no mark and begins no escape. -/
private theorem readLines?_plain {mark c : Char} {escapes : Bool} (hmark : c ≠ mark)
    (hbackslash : ¬(c = '\\' ∧ escapes = true)) (hcontrol : isControl c = false) (t : Text) :
    readLines? mark escapes (c :: t) =
      (readLines? mark escapes t).map fun r => (c :: r.1, r.2) := by
  -- A line feed is plain between triple marks, though it is not printable.
  by_cases hlf : c = '\n'
  · subst hlf
    rw [readLines?.eq_def]
    simp only [if_neg hmark, if_neg hbackslash]
    rfl
  · have hprint := isPrintable_of_isControl_eq_false hcontrol hlf
    have hend := readLineEnd?_cons hlf (ne_cr_of_isControl_eq_false hcontrol) t
    rw [readLines?.eq_def]
    simp only [if_neg hmark, if_neg hbackslash]
    split
    · rename_i hsome
      rw [hend] at hsome
      cases hsome
    · rw [if_pos hprint]

/-- `readLines?` reads an escape as the character that it stands for. -/
private theorem readLines?_escape {mark c : Char} (hmark : '\\' ≠ mark) {e : Text}
    (hread : ∀ rest, readEscape? (e ++ rest) = some (c, rest) ∧
      readJoinedLine? (e ++ rest) = none) (t : Text) :
    readLines? mark true ('\\' :: (e ++ t)) =
      (readLines? mark true t).map fun r => (c :: r.1, r.2) := by
  obtain ⟨hescape, hjoined⟩ := hread t
  rw [readLines?.eq_def]
  simp only [if_neg hmark, and_self, if_true]
  split
  · rename_i hsome
    rw [hjoined] at hsome
    cases hsome
  split
  · rename_i hnone
    rw [hnone] at hescape
    cases hescape
  · rename_i hsome
    rw [hsome] at hescape
    cases hescape
    rfl

/-- `readClosing` takes nothing where no mark follows. -/
private theorem readClosing_of_head?_ne {mark : Char} {rest : Text} (h : rest.head? ≠ some mark) :
    readClosing mark rest = ([], rest) := by
  unfold readClosing
  split <;> simp_all

private theorem readClosing_one {mark : Char} {rest : Text} (h : rest.head? ≠ some mark) :
    readClosing mark (mark :: rest) = ([mark], rest) := by
  cases rest with
  | nil => simp [readClosing]
  | cons c rest =>
    have hc : c ≠ mark := by simpa using h
    simp [readClosing, hc]

private theorem readClosing_two (mark : Char) (rest : Text) :
    readClosing mark (mark :: mark :: rest) = ([mark, mark], rest) := by
  simp [readClosing]

/-- In `Lines`, nothing is written for the empty text only. -/
private theorem Lines.eq_nil {mark : Char} {escapes : Bool} {t : Text}
    (h : Lines mark escapes t []) : t = [] := by
  cases h
  rfl

/-- In `Lines`, one mark is written for itself only. -/
private theorem Lines.eq_singleton {mark : Char} {escapes : Bool} (hmark : '\\' ≠ mark) {t : Text}
    (h : Lines mark escapes t [mark]) : t = [mark] := by
  generalize hw : [mark] = w at h
  cases h with
  | nil => cases hw
  | plain hne => exact absurd (List.cons.inj hw).1.symm hne
  | escape => exact absurd (List.cons.inj hw).1.symm hmark
  | mark _ h =>
    cases hw
    rw [h.eq_nil]

/-- `readLines?` reads what is written for a text back up to the closing marks. -/
theorem Lines.read {mark : Char} {escapes : Bool} {t w : Text} (hmark : '\\' ≠ mark)
    (h : Lines mark escapes t w) {rest : Text} (hrest : rest.head? ≠ some mark) :
    readLines? mark escapes (w ++ mark :: mark :: mark :: rest) = some (t, rest) := by
  induction h with
  | nil => rw [List.nil_append, readLines?_close, readClosing_of_head?_ne hrest]
  -- What is read character by character is passed on.
  | plain hne hbackslash hcontrol _ ih =>
    rw [List.cons_append, readLines?_plain hne hbackslash hcontrol, ih]
    rfl
  | escape hescapes hread _ ih =>
    subst hescapes
    rw [List.cons_append, List.append_assoc, readLines?_escape hmark hread, ih]
    rfl
  | @mark t w hmarks h ih =>
    -- With less than two characters after it, the mark may be the first of the closing ones.
    match w with
    | [] =>
      rw [h.eq_nil, List.cons_append, List.nil_append, readLines?_close, readClosing_one hrest]
    | [d] =>
      by_cases hd : d = mark
      · subst hd
        rw [h.eq_singleton hmark, List.cons_append, List.cons_append, List.nil_append,
          readLines?_close, readClosing_two]
      · rw [List.cons_append, List.cons_append, List.nil_append,
          readLines?_mark escapes fun hde => hd hde.1]
        exact congrArg (Option.map _) ih
    | d :: e :: w =>
      have hde : ¬(d = mark ∧ e = mark) := by
        rintro ⟨rfl, rfl⟩
        exact hmarks ⟨w, rfl⟩
      rw [List.cons_append, List.cons_append, List.cons_append, readLines?_mark escapes hde]
      exact congrArg (Option.map _) ih

/-! ### What is written between triple marks -/

/-- `escapeLines` does not begin with a quotation mark, unless it may still write one. -/
private theorem head?_escapeLines_ne (run : Nat) {t : Text} (h : run = 2 ∨ t.head? ≠ some '"') :
    (escapeLines run t).head? ≠ some '"' := by
  cases t with
  | nil => simp [escapeLines]
  | cons c t =>
    rw [escapeLines]
    split
    · -- A third mark in a row is escaped, so it begins with a backslash.
      rename_i hc
      subst hc
      have hrun : run = 2 := h.resolve_right fun hne => hne rfl
      simp [hrun]
    split
    · simp
    · rename_i hc _
      rcases escapeChar_spec c with ⟨he, -⟩ | ⟨e, he, -⟩ <;> simp [he, hc]

/-- After a quotation mark that `escapeLines` has not escaped, no two more of them stand side by
    side. -/
private theorem not_marks_prefix_escapeLines {run : Nat} (hrun : run = 1 ∨ run = 2) (t : Text) :
    ¬['"', '"'] <+: escapeLines run t := by
  have hhead : ∀ w : Text, w.head? ≠ some '"' → ¬['"', '"'] <+: w := by
    rintro w hw ⟨r, rfl⟩
    exact hw rfl
  by_cases h : run = 2 ∨ t.head? ≠ some '"'
  · exact hhead _ (head?_escapeLines_ne run h)
  · -- It is the second mark of a run, and a third one would be escaped.
    obtain ⟨hrun2, hc⟩ := not_or.mp h
    have hone : run = 1 := hrun.resolve_right hrun2
    cases t with
    | nil => simp at hc
    | cons c t =>
      have hcquote : c = '"' := by simpa using hc
      rw [escapeLines, if_pos hcquote, if_neg hrun2, hone]
      rintro ⟨r, hr⟩
      refine head?_escapeLines_ne 2 (t := t) (.inl rfl) ?_
      rw [← (List.cons.inj hr).2]
      rfl

/-- `escapeLines` writes a text in `Lines` with escapes. -/
private theorem lines_escapeLines {run : Nat} (hrun : run ≤ 2) (t : Text) :
    Lines '"' true t (escapeLines run t) := by
  -- The number of marks written in a row changes with each character.
  induction t generalizing run with
  | nil => exact .nil
  | cons c t ih =>
    rw [escapeLines]
    split
    · rename_i hc
      subst hc
      split
      · exact .escape (e := ['"']) rfl (fun _ => ⟨rfl, rfl⟩) (ih (by omega))
      · exact .mark (not_marks_prefix_escapeLines (by omega) t) (ih (by omega))
    rename_i hquote
    split
    · rename_i hc
      subst hc
      exact .plain (by decide) (by decide) (by decide) (ih (by omega))
    · rcases escapeChar_spec c with ⟨he, hbackslash, hcontrol⟩ | ⟨e, he, hread⟩
      · rw [he]
        exact .plain hquote (fun h => hbackslash h.1) hcontrol (ih (by omega))
      · rw [he]
        exact .escape rfl hread (ih (by omega))

/-- A text without control characters stands for itself in `Lines`, if no three marks follow each
    other. -/
private theorem lines_self {mark : Char} {t : Text} (hcontrol : ∀ c ∈ t, isControl c = false)
    (hmarks : ∀ a b, t ≠ a ++ mark :: mark :: mark :: b) : Lines mark false t t := by
  induction t with
  | nil => exact .nil
  | cons c t ih =>
    rw [List.forall_mem_cons] at hcontrol
    have ht := ih hcontrol.2 fun a b h => hmarks (c :: a) b (by rw [h]; rfl)
    by_cases hc : c = mark
    · subst hc
      refine .mark ?_ ht
      rintro ⟨b, rfl⟩
      exact hmarks [] b rfl
    · exact .plain hc (by simp) hcontrol.1 ht

/-! ## All ways of writing -/

/-- One step of counting runs of a character: the longest run before the last one, and the last
    one. -/
def runStep (c : Char) (p : Nat × Nat) (x : Char) : Nat × Nat :=
  if x = c then (p.1, p.2 + 1) else (max p.1 p.2, 0)

/-- `longestRun` is the greater of the two counts that `runStep` makes. -/
private theorem longestRun_eq (c : Char) (t : Text) :
    longestRun c t = max (t.foldl (runStep c) (0, 0)).1 (t.foldl (runStep c) (0, 0)).2 := rfl

/-- The greater of the two counts of `runStep` never falls. -/
private theorem max_le_max_foldl_runStep (c : Char) (t : Text) (p : Nat × Nat) :
    max p.1 p.2 ≤ max (t.foldl (runStep c) p).1 (t.foldl (runStep c) p).2 := by
  induction t generalizing p with
  | nil => exact Nat.le_refl _
  | cons x t ih =>
    rw [List.foldl_cons]
    refine Nat.le_trans ?_ (ih (runStep c p x))
    unfold runStep
    split
    · show max p.1 p.2 ≤ max p.1 (p.2 + 1)
      omega
    · show max p.1 p.2 ≤ max (max p.1 p.2) 0
      omega

/-- `runStep` adds a run to the last one. -/
private theorem foldl_runStep_replicate (c : Char) (n : Nat) (p : Nat × Nat) :
    (List.replicate n c).foldl (runStep c) p = (p.1, p.2 + n) := by
  induction n generalizing p with
  | zero => rfl
  | succ n ih =>
    rw [List.replicate_succ, List.foldl_cons, ih, runStep, if_pos rfl]
    show (p.1, p.2 + 1 + n) = (p.1, p.2 + (n + 1))
    rw [Nat.add_right_comm, Nat.add_assoc]

/-- `longestRun` is as long as any run that stands in a text. -/
private theorem le_longestRun (c : Char) (a b : Text) (n : Nat) :
    n ≤ longestRun c (a ++ List.replicate n c ++ b) := by
  rw [longestRun_eq, List.foldl_append, List.foldl_append, foldl_runStep_replicate]
  -- The run adds its length to the last one, and what follows does not take it away.
  refine Nat.le_trans ?_ (max_le_max_foldl_runStep c b _)
  show n ≤ max _ (_ + n)
  omega

/-- Without a run, as `longestRun` counts them, a character is not there. -/
private theorem not_mem_of_longestRun_eq_zero {c : Char} {t : Text} (h : longestRun c t = 0) :
    c ∉ t := by
  intro hc
  obtain ⟨a, b, rfl⟩ := List.append_of_mem hc
  have hrun := le_longestRun c a b 1
  rw [List.append_assoc] at hrun
  simp only [List.replicate_one, List.singleton_append] at hrun
  omega

/-- If `longestRun` is two, no three of a character stand side by side. -/
private theorem ne_append_of_longestRun_le_two {c : Char} {t : Text} (h : longestRun c t ≤ 2)
    (a b : Text) : t ≠ a ++ c :: c :: c :: b := by
  rintro rfl
  have hrun := le_longestRun c a b 3
  have hthree : List.replicate 3 c ++ b = c :: c :: c :: b := rfl
  rw [List.append_assoc, hthree] at hrun
  omega

/-- A text for which `QuoteStyle.of` chooses apostrophes needs no escapes, and has one line. -/
private theorem QuoteStyle.of_eq_literal {t : Text} (h : QuoteStyle.of t = .literal) :
    (∀ c ∈ t, isControl c = false) ∧ '\'' ∉ t ∧ '\n' ∉ t := by
  simp only [QuoteStyle.of] at h
  split at h
  · exact nomatch h
  split at h
  · rename_i hstyle
    simp only [Bool.and_eq_true, Bool.not_eq_true', beq_iff_eq, List.any_eq_false,
      List.contains_eq_mem, decide_eq_false_iff_not, Bool.not_eq_true] at hstyle
    exact ⟨hstyle.1.1, not_mem_of_longestRun_eq_zero hstyle.1.2, hstyle.2⟩
  split at h
  · exact nomatch h
  split at h
  · exact nomatch h
  split at h <;> exact nomatch h

/-- A text for which `QuoteStyle.of` chooses three apostrophes needs no escapes, and never has three
    apostrophes in a row. -/
private theorem QuoteStyle.of_eq_literalLines {t : Text} (h : QuoteStyle.of t = .literalLines) :
    (∀ c ∈ t, isControl c = false) ∧ longestRun '\'' t ≤ 2 := by
  simp only [QuoteStyle.of] at h
  split at h
  · exact nomatch h
  split at h
  · exact nomatch h
  split at h
  · exact nomatch h
  split at h
  · rename_i hstyle
    simp only [Bool.and_eq_true, Bool.not_eq_true', List.any_eq_false, decide_eq_true_eq,
      Bool.not_eq_true] at hstyle
    exact hstyle
  split at h <;> exact nomatch h

/-- `dropLineEnd` drops the line feed after opening marks, and nothing else. -/
private theorem dropLineEnd_openingLineEnd_append {t w : Text}
    (h : '\n' ∉ t → readLineEnd? w = none) : dropLineEnd (openingLineEnd t ++ w) = w := by
  unfold openingLineEnd
  split
  · rfl
  · rename_i hlf
    rw [List.nil_append, dropLineEnd, h (by simpa using hlf)]
    rfl

/-- `escapeLines` does not begin with a line end for a text without one. -/
private theorem readLineEnd?_escapeLines_append {t : Text} (h : '\n' ∉ t) (w : Text) :
    readLineEnd? (escapeLines 0 t ++ '"' :: w) = none := by
  cases t with
  | nil => rfl
  | cons c t =>
    rw [List.mem_cons, not_or] at h
    rw [escapeLines]
    split
    · rfl
    rw [if_neg (Ne.symm h.1)]
    rcases escapeChar_spec c with ⟨he, -, hcontrol⟩ | ⟨e, he, -⟩
    · rw [he]
      exact readLineEnd?_cons (Ne.symm h.1) (ne_cr_of_isControl_eq_false hcontrol) _
    · rw [he]
      rfl

/-- `readQuoted?` does not take a string between single marks for one between triple marks, since
    the text is not written with a mark in front. -/
private theorem readQuoted?_single {mark : Char} {w : Text} (h : w.head? ≠ some mark)
    (hmark : mark ≠ '\n') (rest : Text) :
    readQuoted? (mark :: (w ++ mark :: '\n' :: rest)) =
      readShortQuoted? (mark :: (w ++ mark :: '\n' :: rest)) := by
  have htriple : ∀ c v, mark :: (w ++ mark :: '\n' :: rest) ≠ c :: c :: c :: v := by
    intro c v heq
    -- The second character is the closing mark or the first one of the text.
    cases w with
    | nil =>
      simp only [List.nil_append, List.cons.injEq] at heq
      exact hmark (heq.1.trans heq.2.2.1.symm)
    | cons x w => simp_all
  unfold readQuoted?
  split
  · exact absurd ‹_› (htriple _ _)
  · exact absurd ‹_› (htriple _ _)
  · rfl

/-- `escapeBasic` does not begin with a quotation mark, which it escapes. -/
private theorem head?_escapeBasic_ne (t : Text) : (escapeBasic t).head? ≠ some '"' := by
  cases t with
  | nil => exact nofun
  | cons c t =>
    rw [escapeBasic, List.flatMap_cons]
    split
    · exact nofun
    rename_i hquote
    split
    · exact nofun
    rcases escapeChar_spec c with ⟨he, -⟩ | ⟨e, he, -⟩ <;> simp [he, hquote]

/-- `readQuoted?` reads a string back, whatever the text is, and leaves the end of its line. -/
theorem readQuoted?_quote (t rest : Text) :
    readQuoted? (quote t ++ '\n' :: rest) = some (t, '\n' :: rest) := by
  unfold quote
  cases hstyle : QuoteStyle.of t with
  | basic =>
    simp only [List.append_assoc, List.cons_append, List.nil_append]
    rw [readQuoted?_single (head?_escapeBasic_ne t) (by decide)]
    exact readBasic?_escapeBasic t _
  | literal =>
    obtain ⟨hcontrol, hmark, hlf⟩ := QuoteStyle.of_eq_literal hstyle
    have hhead : t.head? ≠ some '\'' := fun h => hmark (List.mem_of_head? h)
    simp only [List.append_assoc, List.cons_append, List.nil_append]
    rw [readQuoted?_single hhead (by decide)]
    refine readLiteral?_append hmark (fun c hc => ?_) _
    exact isPrintable_of_isControl_eq_false (hcontrol c hc) fun h => hlf (h ▸ hc)
  -- Between triple marks the text may begin with a line feed, which an added one protects.
  | basicLines =>
    show readLines? '"' true (dropLineEnd (openingLineEnd t ++ escapeLines 0 t ++
      ['"', '"', '"'] ++ '\n' :: rest)) = _
    simp only [List.append_assoc, List.cons_append, List.nil_append]
    rw [dropLineEnd_openingLineEnd_append fun hlf => readLineEnd?_escapeLines_append hlf _]
    exact (lines_escapeLines (Nat.zero_le 2) t).read (by decide) (by simp)
  | literalLines =>
    obtain ⟨hcontrol, hrun⟩ := QuoteStyle.of_eq_literalLines hstyle
    show readLines? '\'' false (dropLineEnd (openingLineEnd t ++ t ++
      ['\'', '\'', '\''] ++ '\n' :: rest)) = _
    simp only [List.append_assoc, List.cons_append, List.nil_append]
    rw [dropLineEnd_openingLineEnd_append]
    · exact (lines_self hcontrol (ne_append_of_longestRun_le_two hrun)).read (by decide) (by simp)
    · intro hlf
      cases t with
      | nil => rfl
      | cons c t =>
        rw [List.mem_cons, not_or] at hlf
        rw [List.forall_mem_cons] at hcontrol
        exact readLineEnd?_cons (Ne.symm hlf.1) (ne_cr_of_isControl_eq_false hcontrol.1) _

end Facets.Toml
