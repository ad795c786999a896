import Facets.Param
import Facets.Proofs.TextLemmas

/-!
# Texts that write an argument

An argument is read from its text by `Param.parse`.  This file says without the reader which
arguments can be read and which texts write them:

* `Text.Trimming`: a text divided into padding, what is left when it is trimmed, and padding.
  Each text has one such division, and its middle part is the trimmed text (`Text.trimming_iff`).
* `Param.Normal`: the arguments that can be read, those without blanks around their parts and
  without a `=` that would be taken for another one.
* `Param.WrittenAs`: the texts that write an argument, with any blanks around its parts.

A text is read as an argument just if the argument is normal and the text writes it
(`Param.parse_eq_iff`).
-/

namespace Facets

/-! ## Trimmed texts as middle parts -/

namespace Text

/-- `Trimming p t l m r`: the text `t` is divided into padding `l`, a middle part `m` that begins
    and ends with no padding, and padding `r`.  If there is no such part, all padding counts as
    standing before it. -/
structure Trimming (p : Char → Bool) (t l m r : Text) : Prop where
  parts : t = l ++ m ++ r
  before : ∀ c ∈ l, p c = true
  after : ∀ c ∈ r, p c = true
  head : ∀ c ∈ m.head?, p c = false
  last : ∀ c ∈ m.getLast?, p c = false
  of_eq_nil : m = [] → l = t

variable {p : Char → Bool} {t l m r : Text}

/-- Every text has a `Trimming`, with `trim p t` in the middle. -/
theorem trimming_trim (p : Char → Bool) (t : Text) :
    Trimming p t (t.takeWhile p) (trim p t) ((t.dropWhile p).rtakeWhile p) where
  parts := trim_parts p t
  before _ hc := List.mem_takeWhile_imp hc
  after _ hc := List.mem_rtakeWhile_imp hc
  head := head?_trim p t
  last := getLast?_trim p t
  of_eq_nil h := List.takeWhile_eq_self_iff.mpr (trim_eq_nil_iff.mp h)

/-- A `Trimming` pads its middle part, so what is known of `Padded` texts holds. -/
theorem Trimming.padded (h : Trimming p t l m r) : Padded p m t :=
  ⟨l, r, h.before, h.after, h.parts⟩

/-- The middle part of a `Trimming` is `trim p t`. -/
theorem Trimming.eq_trim (h : Trimming p t l m r) : m = trim p t := by
  rw [h.padded.trim_eq, trim_eq_self h.head h.last]

/-- The front part of a `Trimming` is all the padding that there is at the front. -/
private theorem Trimming.eq_takeWhile (h : Trimming p t l m r) : l = t.takeWhile p := by
  cases hm : m with
  | nil =>
    -- There is nothing but padding, which counts as standing before the middle.
    have hl := h.of_eq_nil hm
    have hall : ∀ c ∈ t, p c = true := hl ▸ h.before
    rw [List.takeWhile_eq_self_iff.mpr hall, hl]
  | cons c m =>
    -- The padding ends with the first character of the middle part.
    have hc : p c = false := h.head c (by simp [hm])
    rw [h.parts, hm, List.append_assoc, List.takeWhile_append_of_pos h.before, List.cons_append,
      List.takeWhile_cons_of_neg (by simp [hc]), List.append_nil]

/-- A text has only one `Trimming`, and its middle part is `trim p t`. -/
theorem trimming_iff :
    Trimming p t l m r ↔
      l = t.takeWhile p ∧ m = trim p t ∧ r = (t.dropWhile p).rtakeWhile p := by
  constructor
  · intro h
    have hl := h.eq_takeWhile
    have hm := h.eq_trim
    refine ⟨hl, hm, ?_⟩
    -- The last part is what the other two leave.
    have hparts := h.parts.symm.trans (trimming_trim p t).parts
    rw [hl, hm] at hparts
    exact List.append_cancel_left hparts
  · rintro ⟨rfl, rfl, rfl⟩
    exact trimming_trim p t

end Text

/-! ## Arguments -/

namespace Param

/-- An argument that `parse` can give: it has no blanks around its parts, and its first part has no
    `=`. -/
def Normal (p : Param) : Prop :=
  Text.trimBlank p.value = p.value ∧
    match p.name with
    | none => '=' ∉ p.value
    | some name => '=' ∉ name ∧ Text.trimBlank name = name

/-- The texts that write an argument: its value, or its name and its value with `=` between them,
    with any blanks around the parts. -/
inductive WrittenAs : Param → Text → Prop
  | bare {value u : Text} (padded : Text.Padded Text.isBlank value u) : WrittenAs ⟨none, value⟩ u
  | named {name value n v : Text} (padded_name : Text.Padded Text.isBlank name n)
      (padded_value : Text.Padded Text.isBlank value v) :
      WrittenAs ⟨some name, value⟩ (n ++ '=' :: v)

/-- Whatever text `parse` reads, the argument is `Normal` and the text writes it. -/
theorem parse_spec (t : Text) : (parse t).Normal ∧ (parse t).WrittenAs t := by
  rw [parse]
  split
  · -- The name and the value are what is left and right of the first `=`.
    rename_i n v hcut
    obtain ⟨rfl, hn⟩ := Text.append_of_cut? hcut
    have hname : '=' ∉ Text.trimBlank n := fun h => hn (Text.mem_of_mem_trim h)
    exact ⟨⟨Text.trim_trim _ v, hname, Text.trim_trim _ n⟩,
      .named (Text.padded_trim _ n) (Text.padded_trim _ v)⟩
  · rename_i hcut
    -- There is no name, and no `=` comes in by trimming.
    rw [Text.cut?_eq_none_iff] at hcut
    exact ⟨⟨Text.trim_trim _ t, fun h => hcut (Text.mem_of_mem_trim h)⟩,
      .bare (Text.padded_trim _ t)⟩

/-- `parse` reads a `Normal` argument from each text that writes it. -/
theorem parse_of_writtenAs {p : Param} {t : Text} (hp : p.Normal) (h : p.WrittenAs t) :
    parse t = p := by
  -- Blanks bring in no `=`, so the text is cut where the argument is.
  have hequals : Text.isBlank '=' = false := by decide
  cases h with
  | @bare value u padded =>
    obtain ⟨hvalue, hnot⟩ := hp
    have hcut : t.cut? '=' = none := Text.cut?_eq_none_iff.mpr (padded.not_mem hequals hnot)
    have htrim : Text.trimBlank t = value := padded.trim_eq.trans hvalue
    simp only [parse, hcut, htrim]
  | @named name value n v padded_name padded_value =>
    obtain ⟨hvalue, hnot, hname⟩ := hp
    have hcut : Text.cut? '=' (n ++ '=' :: v) = some (n, v) :=
      Text.cut?_append (padded_name.not_mem hequals hnot) v
    have hn : Text.trimBlank n = name := padded_name.trim_eq.trans hname
    have hv : Text.trimBlank v = value := padded_value.trim_eq.trans hvalue
    simp only [parse, hcut, hn, hv]

/-- `parse` gives an argument just if this is `Normal` and the text writes it. -/
theorem parse_eq_iff {p : Param} {t : Text} : parse t = p ↔ p.Normal ∧ p.WrittenAs t := by
  constructor
  · rintro rfl
    exact parse_spec t
  · rintro ⟨hp, h⟩
    exact parse_of_writtenAs hp h

/-- An argument is written without any blanks, too, so `WrittenAs` holds of some text. -/
private theorem exists_writtenAs (p : Param) : ∃ t, p.WrittenAs t := by
  obtain ⟨name, value⟩ := p
  -- A text pads itself.
  cases name with
  | none => exact ⟨value, .bare (.refl _ _)⟩
  | some name => exact ⟨name ++ '=' :: value, .named (.refl _ _) (.refl _ _)⟩

/-- `parse` gives just the `Normal` arguments, each one from all texts that write it with blanks
    around its parts.  `Text.trimBlank` leaves the one part of a text that stands between its
    blanks. -/
theorem parse_normal_forms :
    (∀ p : Param, (∃ t, parse t = p) ↔ p.Normal) ∧
      (∀ (p : Param) (t : Text), parse t = p ↔ p.Normal ∧ p.WrittenAs t) ∧
      ∀ t : Text, ∃ l r, ∀ l' m' r', Text.Trimming Text.isBlank t l' m' r' ↔
        l' = l ∧ m' = Text.trimBlank t ∧ r' = r := by
  refine ⟨fun p => ⟨?_, fun hp => ?_⟩, fun p t => parse_eq_iff, fun t => ?_⟩
  · rintro ⟨t, rfl⟩
    exact (parse_spec t).1
  · obtain ⟨t, ht⟩ := p.exists_writtenAs
    exact ⟨t, parse_of_writtenAs hp ht⟩
  · exact ⟨_, _, fun l' m' r' => Text.trimming_iff⟩

/-- Blanks, which NUL and the vertical tab are too, stand around both parts; the second `=` is in
    the value. -/
example : parse " \tname\x00=\x0ba = b\n".toList = ⟨some "name".toList, "a = b".toList⟩ := by
  decide

end Param

end Facets
