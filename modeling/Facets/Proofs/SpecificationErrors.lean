import Facets.Proofs.ExceptLemmas
import Facets.Proofs.Segmentation

/-!
# Errors of specifications

A specification is refused for one reason only: a token sets a key that is none of the four.  The
first such token of all its groups gives the error (`Catalog.parse_eq_error_iff_first_unknown`),
whether its filter is kept, dropped for want of a name, or replaced later on.

Each step of the reader fails, or does not, whatever has been read before it.  So the error of a
run is the first error of its steps (`foldlM_eq_error_iff`), and this is used twice: for the
tokens of a filter and for the groups of a specification.
-/

namespace Facets

/-! ## Runs of steps that fail by themselves -/

/-- If it depends on an element alone whether its step fails, `foldlM` fails with the first error.
    -/
theorem foldlM_eq_error_iff {α β ε : Type} {f : β → α → Except ε β} {error? : α → Option ε}
    (hf : ∀ b a e, f b a = .error e ↔ error? a = some e) (l : List α) (b : β) (e : ε) :
    l.foldlM f b = .error e ↔ l.findSome? error? = some e := by
  induction l generalizing b with
  | nil =>
    rw [List.foldlM_nil, List.findSome?_nil]
    exact ⟨nofun, nofun⟩
  | cons a l ih =>
    rw [List.foldlM_cons, List.findSome?_cons]
    cases hfa : f b a with
    | error e' =>
      -- Both the run and the search stop here.
      rw [(hf b a e').mp hfa]
      show Except.error e' = Except.error e ↔ some e' = some e
      simp
    | ok b' =>
      -- A step that succeeds adds nothing to what the search finds.
      have hnone : error? a = none := by
        rw [Option.eq_none_iff_forall_ne_some]
        intro e' he'
        have herror := (hf b a e').mpr he'
        rw [hfa] at herror
        cases herror
      rw [hnone]
      exact ih b'

/-- `findSome?` finds in `flatMap` the first of what it finds in the parts. -/
private theorem findSome?_flatMap {α β γ : Type} (f : α → List β) (p : β → Option γ) (l : List α) :
    (l.flatMap f).findSome? p = l.findSome? fun a => (f a).findSome? p := by
  induction l with
  | nil => rfl
  | cons a l ih =>
    rw [List.flatMap_cons, List.findSome?_append, List.findSome?_cons, ih]
    cases (f a).findSome? p <;> rfl

/-! ## Tokens -/

/-- A token that sets a key which is none of the four; without blanks around it the key is `k`. -/
def Text.HasUnknownKey (token k : Text) : Prop :=
  ∃ key value, token = key ++ '=' :: value ∧ '=' ∉ key ∧ trimBlank key = k ∧
    k ∉ SettingKey.all.map SettingKey.name

/-- `SettingKey.parse` fails just with the text that names none of the four keys. -/
theorem SettingKey.parse_eq_error_iff {t : Text} {e : FilterError} :
    SettingKey.parse t = .error e ↔ e = .unknownSetting t ∧ t ∉ all.map name := by
  rw [SettingKey.parse]
  cases hfind : ofName? t with
  | none =>
    have hmem : t ∉ all.map name := by
      rw [ofName?, List.find?_eq_none] at hfind
      simpa [eq_comm] using hfind
    simp [hmem, eq_comm]
  | some k =>
    have hmem : t ∈ all.map name :=
      List.mem_map.mpr ⟨k, List.mem_of_find?_eq_some hfind, by simpa using List.find?_some hfind⟩
    simp [hmem]

/-- The error that a token gives, if it gives one. -/
def Token.error? : Token → Option FilterError
  | .keyed key _ => match SettingKey.parse key with
    | .ok _ => none
    | .error e => some e
  | .bare _ => none

/-- A token with a key gives the error of `SettingKey.parse`. -/
private theorem Token.error?_keyed {key value : Text} {e : FilterError} :
    (keyed key value).error? = some e ↔ SettingKey.parse key = .error e := by
  rw [error?]
  cases SettingKey.parse key <;> simp

/-- `Token.ofText` gives an error just for a text with an unknown key. -/
theorem Token.error?_ofText {u k : Text} :
    (ofText u).error? = some (.unknownSetting k) ↔ u.HasUnknownKey k := by
  rw [ofText]
  cases hcut : u.cut? '=' with
  | none =>
    have hequals : '=' ∉ u := Text.cut?_eq_none_iff.mp hcut
    refine ⟨nofun, ?_⟩
    rintro ⟨key, value, rfl, -⟩
    exact absurd (by simp) hequals
  | some p =>
    obtain ⟨key, value⟩ := p
    rw [error?_keyed, SettingKey.parse_eq_error_iff]
    constructor
    · -- The cut gives the key that is unknown.
      rintro ⟨he, hmem⟩
      obtain ⟨hu, hkey⟩ := Text.append_of_cut? hcut
      injection he with hk
      exact ⟨key, value, hu, hkey, hk.symm, hk ▸ hmem⟩
    · -- A text is cut at its first `=` only, so both ways of cutting it are the same.
      rintro ⟨key', value', rfl, hkey', rfl, hmem⟩
      rw [Text.cut?_append hkey'] at hcut
      cases hcut
      exact ⟨rfl, hmem⟩

/-- So it gives none just for a text without one. -/
theorem Token.error?_ofText_eq_none {u : Text} :
    (ofText u).error? = none ↔ ∀ k, ¬u.HasUnknownKey k := by
  rw [Option.eq_none_iff_forall_ne_some]
  constructor
  · intro h k hk
    exact h _ (error?_ofText.mpr hk)
  · intro h e he
    cases e with
    | unknownSetting k => exact h k (error?_ofText.mp he)

/-! ## Filters and groups -/

/-- Whether `Draft.add` fails does not depend on what has been read before. -/
private theorem Filter.Draft.add_eq_error_iff (d : Draft) (token : Token) (e : FilterError) :
    d.add token = .error e ↔ token.error? = some e := by
  cases token with
  | keyed key value =>
    rw [Token.error?_keyed, add, bind_pure_comp, map_eq_error_iff]
  | bare t =>
    rw [add]
    split <;> exact ⟨nofun, nofun⟩

/-- `Filter.parse` fails with the first error of its tokens. -/
theorem Filter.parse_eq_error_iff (name settings : Text) (e : FilterError) :
    parse name settings = .error e ↔
      (settings.pieces ',').findSome? (fun u => (Token.ofText u).error?) = some e := by
  rw [parse, map_eq_error_iff, foldlM_eq_error_iff Draft.add_eq_error_iff, Token.ofSettings,
    List.findSome?_map]
  rfl

namespace Catalog

/-- `addGroup` fails for a group without a name just as for one with a name. -/
private theorem addGroup_eq_error_iff (c : Catalog) (g : Group) (e : FilterError) :
    c.addGroup g = .error e ↔
      (g.settings.pieces ',').findSome? (fun u => (Token.ofText u).error?) = some e := by
  rw [addGroup, addSegment, bind_pure_comp, map_eq_error_iff, Filter.parse_eq_error_iff]

end Catalog

/-- The texts between commas in the groups of a text, in order. -/
def Segmentation.tokens {t : Text} (d : Segmentation t) : List Text :=
  d.groups.flatMap fun g => g.settings.pieces ','

namespace Catalog

/-- `parse` fails with the first error of the tokens of a specification. -/
private theorem parse_eq_error_iff_findSome? {t : Text} (d : Segmentation t) (e : FilterError) :
    parse t = .error e ↔ d.tokens.findSome? (fun u => (Token.ofText u).error?) = some e := by
  rw [← addSpecification_empty, addSpecification_eq, foldlM_eq_error_iff addGroup_eq_error_iff,
    Segmentation.tokens, findSome?_flatMap]

/-- However a text is divided into groups, and it can be, `parse` refuses it for the first of their
    tokens that has an unknown key, and accepts it if no token has one. -/
theorem parse_eq_error_iff_first_unknown (t : Text) :
    Nonempty (Segmentation t) ∧ ∀ d : Segmentation t,
      (∀ k, parse t = .error (.unknownSetting k) ↔
        ∃ before token after, d.tokens = before ++ token :: after ∧ token.HasUnknownKey k ∧
          ∀ u ∈ before, ∀ k', ¬u.HasUnknownKey k') ∧
      ((∃ c, parse t = .ok c) ↔ ∀ u ∈ d.tokens, ∀ k, ¬u.HasUnknownKey k) := by
  refine ⟨Segmentation.nonempty t, fun d => ⟨fun k => ?_, ?_⟩⟩
  · rw [parse_eq_error_iff_findSome? d, List.findSome?_eq_some_iff]
    simp only [Token.error?_ofText, Token.error?_ofText_eq_none]
  · -- There is no other error than that of an unknown key.
    simp only [← Token.error?_ofText_eq_none]
    rw [← List.findSome?_eq_none_iff, Option.eq_none_iff_forall_ne_some]
    simp only [ne_eq, ← parse_eq_error_iff_findSome? d]
    -- A specification is read or gives some error.
    cases parse t with
    | error e => exact ⟨nofun, fun h => absurd rfl (h e)⟩
    | ok c => exact ⟨fun _ => nofun, fun _ => ⟨c, rfl⟩⟩

/-- Of two tokens that are refused the first one gives the error, though its group has no name.
    What looks like a token in front of the groups, or in the last one, is none. -/
theorem parse_reports_first_unknown :
    parse "x=1) (requires=A, Size =2), C(weight=3), D(y=".toList =
      .error (.unknownSetting "Size".toList) := by
  let d : Segmentation "x=1) (requires=A, Size =2), C(weight=3), D(y=".toList :=
    { groups :=
        [⟨"x=1)".toList, " ".toList, "requires=A, Size =2".toList, by decide,
            by simp [Scanner.isParen], by decide⟩,
          ⟨[], ", C".toList, "weight=3".toList, by decide, by simp [Scanner.isParen], by decide⟩]
      junk := []
      rest := ", D(y=".toList
      isJunk_junk := .nil
      close_not_mem_rest := by decide
      text_eq := by decide }
  have htokens : d.tokens =
      ["requires=A".toList] ++ " Size =2".toList :: ["weight=3".toList] := by decide
  have hunknown : Text.HasUnknownKey " Size =2".toList "Size".toList :=
    ⟨" Size ".toList, "2".toList, by decide, by decide, by decide, by decide⟩
  have hknown : ∀ u ∈ ["requires=A".toList], ∀ k, ¬Text.HasUnknownKey u k := by
    rw [List.forall_mem_singleton]
    exact Token.error?_ofText_eq_none.mp rfl
  exact (((parse_eq_error_iff_first_unknown _).2 d).1 _).mpr ⟨_, _, _, htokens, hunknown, hknown⟩

end Catalog

end Facets
