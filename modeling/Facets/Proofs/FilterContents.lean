import Facets.Proofs.LastElement
import Facets.Proofs.SpecificationErrors
import Facets.Proofs.SpecificationRoundtrip

/-!
# What tokens leave in a filter

The settings of a filter are read token by token, and a token without `=` has an effect only while
the last token with `=` set `requires`.  `Filter.Follows` says what comes of this without following
the reader: keys stand where they occur first, and each has what its last token gives it, for
`requires` together with the tokens up to the next `=`.

Each token keeps it (`Filter.Draft.Follows.add`), so it holds of every filter that is read
(`Filter.follows_of_parse`).  It leaves nothing open (`Filter.Follows.unique`), and it does not
mention the tokens without `=` that stand elsewhere (`Filter.Follows.change_bare`), so these have no
effect.
-/

namespace Facets

/-! ## Tokens as they are written -/

namespace Text

/-- What stands in front of the first `=` of a token, without blanks around it. -/
def keyPart (token : Text) : Text := trimBlank (token.takeWhile (· ≠ '='))

/-- What stands after the first `=` of a token, without blanks around it. -/
def valuePart (token : Text) : Text := trimBlank (token.dropWhile (· ≠ '=')).tail

/-- Whether a token has an `=`, with the name of a key in front of it. -/
def SetsKey (token : Text) (k : SettingKey) : Prop := '=' ∈ token ∧ token.keyPart = k.name

instance (token : Text) (k : SettingKey) : Decidable (token.SetsKey k) :=
  inferInstanceAs (Decidable (_ ∧ _))

/-- The `keyPart` and the `valuePart` of a token are what stands on both sides of its first `=`,
    trimmed. -/
private theorem parts_append {key : Text} (hkey : '=' ∉ key) (value : Text) :
    (key ++ '=' :: value).keyPart = trimBlank key ∧
      (key ++ '=' :: value).valuePart = trimBlank value := by
  have hne : ∀ c ∈ key, decide (c ≠ '=') = true := fun c hc =>
    decide_eq_true fun e => hkey (e ▸ hc)
  rw [keyPart, valuePart, List.takeWhile_append_of_pos hne, List.dropWhile_append_of_pos hne]
  simp

/-- A `valuePart` holds no comma, if the token has none. -/
private theorem comma_not_mem_valuePart {token : Text} (h : ',' ∉ token) : ',' ∉ token.valuePart :=
  fun hm => h ((List.dropWhile_sublist _).mem (List.mem_of_mem_tail (mem_of_mem_trim hm)))

/-- A `valuePart` is trimmed already. -/
private theorem trimBlank_valuePart (token : Text) : trimBlank token.valuePart = token.valuePart :=
  trim_trim _ _

end Text

/-- Keys are known from their names, since `SettingKey.parse` reads them. -/
theorem SettingKey.name_injective : Function.Injective SettingKey.name := by
  intro k k' h
  have hparse := k.name_spec.2.2
  rw [h, k'.name_spec.2.2] at hparse
  injection hparse with hkey
  exact hkey.symm

/-- `SettingKey.parse` reads a key from its name only. -/
theorem SettingKey.eq_name_of_parse {t : Text} {k : SettingKey} (h : parse t = .ok k) :
    t = k.name := by
  rw [parse] at h
  split at h
  · rename_i k' hfind
    cases h
    simpa [eq_comm] using List.find?_some hfind
  · cases h

/-- A token sets one key only. -/
private theorem Text.SetsKey.unique {token : Text} {k k' : SettingKey} (h : token.SetsKey k)
    (h' : token.SetsKey k') : k = k' :=
  SettingKey.name_injective (h.2.symm.trans h'.2)

namespace Token

/-- `Token.ofText` reads a keyed token where there is an `=`. -/
private theorem ofText_of_equals_mem {u : Text} (h : '=' ∈ u) :
    ofText u = .keyed u.keyPart u.valuePart := by
  cases hcut : u.cut? '=' with
  | none => exact absurd h (Text.cut?_eq_none_iff.mp hcut)
  | some p =>
    obtain ⟨key, value⟩ := p
    obtain ⟨rfl, hkey⟩ := Text.append_of_cut? hcut
    obtain ⟨hkeyPart, hvaluePart⟩ := Text.parts_append hkey value
    rw [ofText, hcut, hkeyPart, hvaluePart]

/-- `Token.ofText` reads a bare token where there is no `=`. -/
private theorem ofText_of_equals_not_mem {u : Text} (h : '=' ∉ u) :
    ofText u = .bare (Text.trimBlank u) := by
  rw [ofText, Text.cut?_eq_none_iff.mpr h]

end Token

/-! ## Tokens after `requires` -/

/-- Whether the last token with `=` sets `requires`, so that tokens without `=` go on its list. -/
def ContinuesRequires (tokens : List Text) : Prop :=
  ∃ token after, IsLast ('=' ∈ ·) tokens token after ∧ token.SetsKey .requires

/-- At the beginning there is no list to go on. -/
private theorem continuesRequires_nil : ¬ContinuesRequires [] :=
  fun ⟨_, _, hlast, _⟩ => nomatch hlast.mem

/-- After a token with `=`, `ContinuesRequires` holds just if that sets `requires`. -/
private theorem continuesRequires_concat_of_mem {tokens : List Text} {u : Text} (hu : '=' ∈ u) :
    ContinuesRequires (tokens ++ [u]) ↔ u.SetsKey .requires := by
  constructor
  · rintro ⟨token, after, hlast, hsets⟩
    rcases isLast_concat.mp hlast with ⟨-, rfl, -⟩ | ⟨hno, -⟩
    · exact hsets
    · exact absurd hu hno
  · exact fun hsets => ⟨u, [], isLast_concat.mpr (.inl ⟨hu, rfl, rfl⟩), hsets⟩

/-- A token without `=` makes no difference to `ContinuesRequires`. -/
private theorem continuesRequires_concat_of_not_mem {tokens : List Text} {u : Text} (hu : '=' ∉ u) :
    ContinuesRequires (tokens ++ [u]) ↔ ContinuesRequires tokens := by
  constructor
  · rintro ⟨token, after, hlast, hsets⟩
    obtain ⟨rest, -, hrest⟩ := hlast.of_concat hu
    exact ⟨token, rest, hrest, hsets⟩
  · rintro ⟨token, after, hlast, hsets⟩
    exact ⟨token, after ++ [u], hlast.concat hu, hsets⟩

/-- The requirements that a token writes with those after it: its value and the tokens up to the
    next `=`, without the empty ones, each where it occurs first. -/
def requirementsOf (token : Text) (after : List Text) : List Text :=
  ((token.valuePart :: (after.takeWhile ('=' ∉ ·)).map Text.trimBlank).filter (· ≠ [])).eraseDups

section Requirements

variable (token : Text) {after : List Text} {u : Text}

/-- With nothing after it, `requirementsOf` a token is its value, unless that is empty. -/
private theorem requirementsOf_nil :
    requirementsOf token [] = if token.valuePart = [] then [] else [token.valuePart] := by
  rw [requirementsOf]
  split
  · simp [*]
  · simp [*, List.eraseDups_cons]

/-- A token with `=` ends `requirementsOf` the one before. -/
private theorem requirementsOf_append_cons (hu : '=' ∈ u) (more : List Text) :
    requirementsOf token (after ++ u :: more) = requirementsOf token after := by
  -- The run of tokens without `=` ends at `u`, or before.
  have htake : (after ++ u :: more).takeWhile (fun u => decide ('=' ∉ u)) =
      after.takeWhile (fun u => decide ('=' ∉ u)) := by
    induction after with
    | nil => simp [hu]
    | cons v after ih =>
      rw [List.cons_append, List.takeWhile_cons, List.takeWhile_cons, ih]
  rw [requirementsOf, requirementsOf, htake]

/-- So what follows such a token makes no difference to `requirementsOf`. -/
private theorem requirementsOf_append (h : ∃ u ∈ after, '=' ∈ u) (more : List Text) :
    requirementsOf token (after ++ more) = requirementsOf token after := by
  obtain ⟨u, hmem, hu⟩ := h
  obtain ⟨front, back, rfl⟩ := List.append_of_mem hmem
  rw [List.append_assoc, List.cons_append, requirementsOf_append_cons token hu,
    requirementsOf_append_cons token hu]

/-- Without such a token, all that follows is among `requirementsOf`. -/
private theorem requirementsOf_of_not_mem (h : ∀ u ∈ after, '=' ∉ u) :
    requirementsOf token after =
      ((token.valuePart :: after.map Text.trimBlank).filter (· ≠ [])).eraseDups := by
  have htake : after.takeWhile (fun u => decide ('=' ∉ u)) = after :=
    List.takeWhile_eq_self_iff.mpr fun u hu => decide_eq_true (h u hu)
  rw [requirementsOf, htake]

/-- After tokens without `=` another one is added to `requirementsOf`, unless it is empty. -/
private theorem requirementsOf_concat (h : ∀ u ∈ after, '=' ∉ u) (hu : '=' ∉ u) :
    requirementsOf token (after ++ [u]) =
      if Text.trimBlank u = [] then requirementsOf token after
      else addNew (requirementsOf token after) (Text.trimBlank u) := by
  have hconcat : ∀ v ∈ after ++ [u], '=' ∉ v :=
    List.forall_mem_append.mpr ⟨h, List.forall_mem_singleton.mpr hu⟩
  rw [requirementsOf_of_not_mem token hconcat, requirementsOf_of_not_mem token h, List.map_append,
    ← List.cons_append, List.filter_append]
  split
  · rename_i hnil
    simp [hnil]
  · rename_i hne
    rw [← eraseDups_concat]
    simp [hne]

end Requirements

/-! ## Filters -/

/-- What a filter holds once some tokens have been read into it, said without `Draft.add`. -/
structure Filter.Follows (f : Filter) (tokens : List Text) : Prop where
  /-- The keys are those of the tokens with `=`, each where it occurs first. -/
  keys : f.settings.map (·.key.name) = ((tokens.filter ('=' ∈ ·)).map Text.keyPart).eraseDups
  /-- A key has the value of the last token that sets it. -/
  scalar : ∀ {k : SettingKey} {token : Text} {after : List Text}, k ≠ .requires →
    IsLast (·.SetsKey k) tokens token after → f.get? k = some (.scalar token.valuePart)
  /-- But `requires` has all that the last token which sets it writes with those after it. -/
  list : ∀ {token : Text} {after : List Text}, IsLast (·.SetsKey .requires) tokens token after →
    f.get? .requires = some (.list (requirementsOf token after))

namespace Filter

/-- A new filter `Follows` no tokens. -/
private theorem follows_new (name : Text) : (new name).Follows [] where
  keys := rfl
  scalar _ hlast := nomatch hlast.mem
  list hlast := nomatch hlast.mem

/-- `Filter.set` adds the name of a key, if it is not there. -/
private theorem map_name_set (f : Filter) (k : SettingKey) (v : SettingValue) :
    (f.set k v).settings.map (·.key.name) = addNew (f.settings.map (·.key.name)) k.name := by
  have hput := congrArg (List.map SettingKey.name) (Keyed.map_put Setting.key ⟨k, v⟩ f.settings)
  rw [map_addNew SettingKey.name_injective, List.map_map, List.map_map] at hput
  exact hput

/-- A token with `=` sets its key to its value. -/
theorem Follows.set {f : Filter} {tokens : List Text} (hf : f.Follows tokens) {u : Text}
    {k : SettingKey} (hu : u.SetsKey k) (hcomma : ',' ∉ u) :
    (f.set k (k.readValue u.valuePart)).Follows (tokens ++ [u]) where
  keys := by
    rw [map_name_set, hf.keys, ← hu.2, ← eraseDups_concat]
    simp [hu.1]
  scalar {k' token after} hne hlast := by
    rw [get?_set]
    rcases isLast_concat.mp hlast with ⟨hu', rfl, -⟩ | ⟨hno, rest, -, hrest⟩
    · -- The new token is the last one of its key.
      obtain rfl := hu.unique hu'
      rw [if_pos rfl, SettingKey.readValue_of_ne hne]
    · -- Another key keeps what it has.
      have hk : k ≠ k' := fun e => hno (e ▸ hu)
      rw [if_neg hk]
      exact hf.scalar hne hrest
  list {token after} hlast := by
    rw [get?_set]
    rcases isLast_concat.mp hlast with ⟨hu', rfl, rfl⟩ | ⟨hno, rest, rfl, hrest⟩
    · -- The value is without a comma, so it is a single item.
      obtain rfl := hu.unique hu'
      rw [if_pos rfl, SettingKey.readValue_requires,
        listItems_of_comma_not_mem (Text.comma_not_mem_valuePart hcomma),
        Text.trimBlank_valuePart, requirementsOf_nil]
    · have hk : k ≠ .requires := fun e => hno (e ▸ hu)
      rw [if_neg hk, hf.list hrest, requirementsOf_append_cons token hu.1]

/-- A token without `=` is a further requirement if it `ContinuesRequires`. -/
theorem Follows.pushRequirement {f : Filter} {tokens : List Text} (hf : f.Follows tokens)
    {u : Text} (hu : '=' ∉ u) (hne : Text.trimBlank u ≠ []) (h : ContinuesRequires tokens) :
    (f.pushRequirement (Text.trimBlank u)).Follows (tokens ++ [u]) := by
  obtain ⟨r, m, ⟨hr, hm, hsuffix⟩, hsets⟩ := h
  -- The last token with `=` is the last one that sets `requires`, too.
  have hlast : IsLast (·.SetsKey .requires) tokens r m :=
    ⟨hsets, fun v hv hv' => hm v hv hv'.1, hsuffix⟩
  have hrequires : f.requires = requirementsOf r m := by
    rw [requires, hf.list hlast]
    rfl
  have hno : ∀ k, ¬u.SetsKey k := fun k hk => hu hk.1
  refine ⟨?_, fun {k token after} hk hlast' => ?_, fun {token after} hlast' => ?_⟩
  · -- The key is there already.
    have hmem : SettingKey.requires.name ∈ f.settings.map (·.key.name) := by
      rw [hf.keys, List.mem_eraseDups]
      exact List.mem_map.mpr ⟨r, List.mem_filter.mpr ⟨hlast.mem, by simpa using hr⟩, hsets.2⟩
    rw [pushRequirement_eq, map_name_set, addNew, if_pos hmem, hf.keys]
    simp [hu]
  · obtain ⟨rest, -, hrest⟩ := hlast'.of_concat (hno k)
    rw [pushRequirement_eq, get?_set, if_neg hk.symm]
    exact hf.scalar hk hrest
  · -- The list of this token is one longer.
    obtain ⟨rest, rfl, hrest⟩ := hlast'.of_concat (hno .requires)
    obtain ⟨rfl, rfl⟩ := hlast.unique hrest
    rw [pushRequirement_eq, get?_set, if_pos rfl, hrequires, requirementsOf_concat r hm hu,
      if_neg hne]

/-- A token without `=` has no effect elsewhere, and none if it is empty. -/
theorem Follows.skip {f : Filter} {tokens : List Text} (hf : f.Follows tokens) {u : Text}
    (hu : '=' ∉ u) (h : ContinuesRequires tokens → Text.trimBlank u = []) :
    f.Follows (tokens ++ [u]) where
  keys := by
    rw [hf.keys]
    simp [hu]
  scalar {k token after} hk hlast := by
    obtain ⟨rest, -, hrest⟩ := hlast.of_concat fun hk' => hu hk'.1
    exact hf.scalar hk hrest
  list {token after} hlast := by
    obtain ⟨rest, rfl, hrest⟩ := hlast.of_concat fun hk' => hu hk'.1
    rw [hf.list hrest]
    by_cases hends : ∃ v ∈ rest, '=' ∈ v
    · rw [requirementsOf_append token hends]
    · -- No `=` has ended the list, so only an empty token leaves it as it is.
      have hbare : ∀ v ∈ rest, '=' ∉ v := fun v hv hv' => hends ⟨v, hv, hv'⟩
      have hnil := h ⟨token, rest, ⟨hrest.holds.1, hbare, hrest.suffix⟩, hrest.holds⟩
      rw [requirementsOf_concat token hbare hu, if_pos hnil]

/-- `Keyed.get?` gives the value that `Filter.get?` gives, with its key. -/
private theorem keyed_get?_eq (f : Filter) (k : SettingKey) :
    Keyed.get? Setting.key k f.settings = (f.get? k).map (Setting.mk k) := by
  rw [get?]
  cases hget : Keyed.get? Setting.key k f.settings with
  | none => rfl
  | some s =>
    have hkey : s.key = k := by simpa using List.find?_some hget
    obtain ⟨k', v⟩ := s
    cases hkey
    rfl

/-- `Follows.keys`, of keys and then of names. -/
private theorem Follows.map_key_name {f : Filter} {tokens : List Text} (hf : f.Follows tokens) :
    (f.settings.map Setting.key).map SettingKey.name =
      ((tokens.filter ('=' ∈ ·)).map Text.keyPart).eraseDups := by
  rw [List.map_map]
  exact hf.keys

/-- A key that stands in a filter is set by some token, so by a last one. -/
theorem Follows.exists_isLast {f : Filter} {tokens : List Text} (hf : f.Follows tokens)
    {k : SettingKey} (hk : k ∈ f.settings.map Setting.key) :
    ∃ token after, IsLast (·.SetsKey k) tokens token after := by
  have hmem : k.name ∈ (f.settings.map Setting.key).map SettingKey.name := List.mem_map_of_mem hk
  rw [hf.map_key_name, List.mem_eraseDups, List.mem_map] at hmem
  obtain ⟨token, htoken, hname⟩ := hmem
  rw [List.mem_filter, decide_eq_true_eq] at htoken
  have hsets : ∃ token ∈ tokens, token.SetsKey k := ⟨token, htoken.1, htoken.2, hname⟩
  exact Facets.exists_isLast hsets

/-- What some tokens leave in a filter is settled by `Follows`. -/
theorem Follows.unique {f g : Filter} {tokens : List Text} (hf : f.Follows tokens)
    (hg : g.Follows tokens) (hname : f.name = g.name) : f = g := by
  have hnodup : (f.settings.map Setting.key).Nodup := by
    refine List.Nodup.of_map SettingKey.name ?_
    rw [hf.map_key_name, ← distinct_eq_eraseDups]
    exact nodup_distinct _
  have hkeys : f.settings.map Setting.key = g.settings.map Setting.key :=
    List.map_injective_iff.mpr SettingKey.name_injective
      (hf.map_key_name.trans hg.map_key_name.symm)
  have hsettings : f.settings = g.settings := by
    -- The same keys in the same order, so it is enough to look up each of them.
    refine Keyed.eq_of_get?_eq hnodup hkeys fun k hk => ?_
    obtain ⟨token, after, hlast⟩ := hf.exists_isLast hk
    rw [keyed_get?_eq, keyed_get?_eq]
    by_cases hreq : k = .requires
    · subst hreq
      rw [hf.list hlast, hg.list hlast]
    · rw [hf.scalar hreq hlast, hg.scalar hreq hlast]
  cases f
  cases g
  cases hname
  cases hsettings
  rfl

/-- Tokens without `=` are not the last ones to set a key, whatever stands around them. -/
private theorem isLast_setsKey_append {k : SettingKey} {before bare after rest : List Text}
    {token : Text} (hbare : ∀ u ∈ bare, '=' ∉ u) :
    IsLast (·.SetsKey k) (before ++ (bare ++ after)) token rest ↔
      IsLast (·.SetsKey k) after token rest ∨
        (∀ u ∈ after, ¬u.SetsKey k) ∧
          ∃ more, rest = more ++ (bare ++ after) ∧ IsLast (·.SetsKey k) before token more := by
  have hno : ∀ u ∈ bare, ¬u.SetsKey k := fun u hu hsets => hbare u hu hsets.1
  have hnone : ∀ {more}, ¬IsLast (·.SetsKey k) bare token more := fun hlast =>
    hno token hlast.mem hlast.holds
  simp only [isLast_append, List.forall_mem_append]
  constructor
  · rintro ((hlast | ⟨-, more, -, hlast⟩) | ⟨⟨-, hafter⟩, hbefore⟩)
    · exact .inl hlast
    · exact absurd hlast hnone
    · exact .inr ⟨hafter, hbefore⟩
  · rintro (hlast | ⟨hafter, hbefore⟩)
    · exact .inl (.inl hlast)
    · exact .inr ⟨⟨hno, hafter⟩, hbefore⟩

/-- Where tokens without `=` do not go on the list of the last `requires`, it makes no difference to
    `Follows` which of them stand there. -/
theorem Follows.change_bare {f : Filter} {before bare bare' after : List Text}
    (hf : f.Follows (before ++ (bare ++ after))) (hbare : ∀ u ∈ bare, '=' ∉ u)
    (hbare' : ∀ u ∈ bare', '=' ∉ u)
    (h : ContinuesRequires before → ∃ u ∈ after, u.SetsKey .requires) :
    f.Follows (before ++ (bare' ++ after)) where
  keys := by
    have hfilter : ∀ us : List Text, (∀ u ∈ us, '=' ∉ u) → us.filter ('=' ∈ ·) = [] :=
      fun us hus => List.filter_eq_nil_iff.mpr fun u hu => by simpa using hus u hu
    rw [hf.keys]
    simp only [List.filter_append, hfilter bare hbare, hfilter bare' hbare']
  scalar {k token rest} hk hlast := by
    rcases (isLast_setsKey_append hbare').mp hlast with hlast | ⟨hafter, more, -, hlast⟩
    · exact hf.scalar hk ((isLast_setsKey_append hbare).mpr (.inl hlast))
    · exact hf.scalar hk ((isLast_setsKey_append hbare).mpr (.inr ⟨hafter, more, rfl, hlast⟩))
  list {token rest} hlast := by
    rcases (isLast_setsKey_append hbare').mp hlast with hlast | ⟨hafter, more, rfl, hmore⟩
    · exact hf.list ((isLast_setsKey_append hbare).mpr (.inl hlast))
    · rw [hf.list ((isLast_setsKey_append hbare).mpr (.inr ⟨hafter, more, rfl, hmore⟩))]
      -- The list ends before these tokens, for else they would go on it.
      have hends : ∃ u ∈ more, '=' ∈ u := by
        by_contra hno
        have hcont : ContinuesRequires before :=
          ⟨token, more, ⟨hmore.holds.1, fun u hu hu' => hno ⟨u, hu, hu'⟩, hmore.suffix⟩,
            hmore.holds⟩
        obtain ⟨u, hu, hsets⟩ := h hcont
        exact hafter u hu hsets
      rw [requirementsOf_append token hends, requirementsOf_append token hends]

/-- What a draft holds once some tokens have been read: what `Filter.Follows` says, and whether to
    go on with the list. -/
structure Draft.Follows (d : Draft) (tokens : List Text) : Prop where
  filter : d.filter.Follows tokens
  inRequires : d.inRequires = true ↔ ContinuesRequires tokens

/-- `Draft.add` keeps `Draft.Follows`, with one more token. -/
theorem Draft.Follows.add {d d' : Draft} {tokens : List Text} (hd : d.Follows tokens) {u : Text}
    (hcomma : ',' ∉ u) (h : d.add (Token.ofText u) = .ok d') : d'.Follows (tokens ++ [u]) := by
  by_cases hu : '=' ∈ u
  · rw [Token.ofText_of_equals_mem hu, Draft.add] at h
    obtain ⟨k, hk, h⟩ := exists_ok_of_bind_eq_ok h
    cases h
    have hsets : u.SetsKey k := ⟨hu, SettingKey.eq_name_of_parse hk⟩
    refine ⟨hd.filter.set hsets hcomma, ?_⟩
    rw [continuesRequires_concat_of_mem hu, decide_eq_true_eq]
    exact ⟨fun e => e ▸ hsets, hsets.unique⟩
  · rw [Token.ofText_of_equals_not_mem hu, Draft.add] at h
    split at h
    · -- The token goes on the list.
      rename_i hpush
      cases h
      refine ⟨hd.filter.pushRequirement hu hpush.1 (hd.inRequires.mp hpush.2), ?_⟩
      rw [continuesRequires_concat_of_not_mem hu]
      exact hd.inRequires
    · -- There is no list to go on, or nothing to put there.
      rename_i hskip
      cases h
      have hnil : ContinuesRequires tokens → Text.trimBlank u = [] := fun hcont =>
        by_contra fun hne => hskip ⟨hne, hd.inRequires.mpr hcont⟩
      refine ⟨hd.filter.skip hu hnil, ?_⟩
      rw [continuesRequires_concat_of_not_mem hu]
      exact hd.inRequires

/-- `Filter.parse` gives a filter that `Follows` all the tokens of the settings. -/
theorem follows_of_parse {name settings : Text} {f : Filter} (h : parse name settings = .ok f) :
    f.Follows (settings.pieces ',') := by
  obtain ⟨d, hfold, rfl⟩ := exists_draft_of_parse h
  rw [Token.ofSettings, List.foldlM_map] at hfold
  have hstart : Draft.Follows ⟨new name, false⟩ [] :=
    ⟨follows_new name, by simp [continuesRequires_nil]⟩
  have hend := foldlM_read (P := fun tokens d => Draft.Follows d tokens)
    (fun _ _ _ _ hmem hadd hd => hd.add (Text.not_mem_of_mem_pieces hmem) hadd) hfold hstart
  exact hend.filter

/-- `Filter.parse` succeeds if each token with `=` sets a key. -/
private theorem exists_parse {settings : Text}
    (h : ∀ token ∈ settings.pieces ',', '=' ∈ token → ∃ k, token.SetsKey k) (name : Text) :
    ∃ f, parse name settings = .ok f := by
  cases hparse : parse name settings with
  | ok f => exact ⟨f, rfl⟩
  | error e =>
    rw [parse_eq_error_iff, List.findSome?_eq_some_iff] at hparse
    obtain ⟨before, token, after, htokens, herror, -⟩ := hparse
    obtain ⟨unknown⟩ := e
    -- The token that gives the error sets a key after all.
    obtain ⟨key, value, rfl, hkey, rfl, hnone⟩ := Token.error?_ofText.mp herror
    obtain ⟨k, -, hk⟩ := h (key ++ '=' :: value) (by simp [htokens]) (by simp)
    rw [(Text.parts_append hkey value).1] at hk
    exact absurd (List.mem_map.mpr ⟨k, by cases k <;> decide, hk.symm⟩) hnone

/-- If each token with `=` sets a key, `Filter.parse` succeeds.  Keys stand where they occur first
    and have the value of the last token that sets them; `requires` has a list, on which go the
    tokens up to the next `=`.  Other tokens without `=` can be left out, put in and changed. -/
theorem parse_follows_tokens {settings : Text}
    (h : ∀ token ∈ settings.pieces ',', '=' ∈ token → ∃ k, token.SetsKey k) (name : Text) :
    (∃ f, parse name settings = .ok f ∧ f.name = name ∧ f.Follows (settings.pieces ',')) ∧
      ∀ (before bare bare' after : List Text) (settings' : Text),
        settings.pieces ',' = before ++ (bare ++ after) →
        settings'.pieces ',' = before ++ (bare' ++ after) →
        (∀ u ∈ bare, '=' ∉ u) → (∀ u ∈ bare', '=' ∉ u) →
        (ContinuesRequires before → ∃ u ∈ after, u.SetsKey .requires) →
          parse name settings' = parse name settings := by
  obtain ⟨f, hparse⟩ := exists_parse h name
  have hf := follows_of_parse hparse
  refine ⟨⟨f, hparse, name_of_parse hparse, hf⟩, ?_⟩
  intro before bare bare' after settings' htokens htokens' hbare hbare' hstray
  -- The changed settings are read, too, since what was put in has no `=`.
  have h' : ∀ token ∈ settings'.pieces ',', '=' ∈ token → ∃ k, token.SetsKey k := by
    intro token hmem hequals
    rw [htokens', List.mem_append, List.mem_append] at hmem
    rcases hmem with hmem | hmem | hmem
    · exact h token (by simp [htokens, hmem]) hequals
    · exact absurd hequals (hbare' token hmem)
    · exact h token (by simp [htokens, hmem]) hequals
  obtain ⟨f', hparse'⟩ := exists_parse h' name
  have hf' := follows_of_parse hparse'
  rw [htokens] at hf
  rw [htokens'] at hf'
  have hname : f'.name = f.name := (name_of_parse hparse').trans (name_of_parse hparse).symm
  rw [hparse', hparse, hf'.unique (hf.change_bare hbare hbare' hstray) hname]

/-- The list of the second `requires` stands in the place of the first one, up to the next `=`. `X`
    went on the list of the first one, so it can be left out. -/
theorem parse_follows_tokens_repeated :
    (∃ f, parse "A".toList "requires=U, X,group=G,Y, requires = B,C , , B,group=H,Z".toList =
        .ok f ∧
      f.settings.map (·.key.name) = ["requires".toList, "group".toList] ∧
      f.get? .requires = some (.list ["B".toList, "C".toList])) ∧
    parse "A".toList "requires=U,group=G,Y, requires = B,C , , B,group=H,Z".toList =
      parse "A".toList "requires=U, X,group=G,Y, requires = B,C , , B,group=H,Z".toList := by
  have htokens : Text.pieces ',' "requires=U, X,group=G,Y, requires = B,C , , B,group=H,Z".toList =
      ["requires=U".toList, " X".toList, "group=G".toList, "Y".toList, " requires = B".toList,
        "C ".toList, " ".toList, " B".toList, "group=H".toList, "Z".toList] := by decide
  have hknown : ∀ token ∈
      Text.pieces ',' "requires=U, X,group=G,Y, requires = B,C , , B,group=H,Z".toList,
      '=' ∈ token → ∃ k, Text.SetsKey token k := by
    have hkeys : ∀ token ∈
        Text.pieces ',' "requires=U, X,group=G,Y, requires = B,C , , B,group=H,Z".toList,
        '=' ∈ token → ∃ k ∈ SettingKey.all, Text.SetsKey token k := by decide
    intro token hmem hequals
    obtain ⟨k, -, hsets⟩ := hkeys token hmem hequals
    exact ⟨k, hsets⟩
  obtain ⟨⟨f, hparse, -, hf⟩, hchange⟩ := parse_follows_tokens hknown "A".toList
  have hlast : IsLast (·.SetsKey .requires)
      (Text.pieces ',' "requires=U, X,group=G,Y, requires = B,C , , B,group=H,Z".toList)
      " requires = B".toList
      ["C ".toList, " ".toList, " B".toList, "group=H".toList, "Z".toList] :=
    ⟨by decide, by decide, by decide⟩
  refine ⟨⟨f, hparse, hf.keys.trans (by decide), ?_⟩, ?_⟩
  · rw [hf.list hlast]
    decide
  · exact hchange ["requires=U".toList] [" X".toList] [] _ _ htokens (by decide) (by decide)
      (by decide) fun _ => ⟨" requires = B".toList, by decide, by decide⟩

end Filter

end Facets
