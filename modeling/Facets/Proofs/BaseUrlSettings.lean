import Facets.Proofs.ConfigRuns

/-!
# Base URLs that settings come to

A base URL is checked as it is given, and kept without the slashes at its end, so that the check
does not see what is kept.  A value of slashes only passes it and leaves an empty base URL
(`Config.slash_leaves_blank_baseUrl`).

* `Config.baseUrl_setAll`: after any settings the base URL is the last one given, less its slashes.
* `Config.baseUrl_after_settings`: it never ends in a slash, and it is blank just if the last one
  given was blank up to its slashes.
-/

namespace Facets

namespace Config

/-! ## Runs of settings -/

/-- A configuration after some settings, if `Config.set` accepts all of them. -/
def setAll (c : Config) (settings : List (Text × Text)) : Except ConfigError Config :=
  settings.foldlM (fun c s => c.set s.1 s.2) c

/-- The value that a key was last set to, if it was set. -/
def lastSet? (key : Text) (settings : List (Text × Text)) : Option Text :=
  settings.reverse.lookup key

/-- `lastSet?` changes only with a setting of the key. -/
private theorem lastSet?_concat (key : Text) (settings : List (Text × Text)) (s : Text × Text) :
    lastSet? key (settings ++ [s]) = if s.1 = key then some s.2 else lastSet? key settings := by
  obtain ⟨k, v⟩ := s
  by_cases hk : k = key
  · simp [lastSet?, hk]
  · have hk' : (key == k) = false := by simpa using Ne.symm hk
    simp [lastSet?, List.lookup_cons, hk, hk']

/-- What `Config.set` does to the base URL: a value under `base_url` is not blank and loses the
    slashes at its end, and under any other key nothing happens to it. -/
private theorem baseUrl_of_set {c c' : Config} {key value : Text} (h : c.set key value = .ok c') :
    (key = "base_url".toList → c'.baseUrl = Text.trimEnd (· = '/') value ∧
        ∃ x ∈ value, Text.isWhiteSpace x = false) ∧
      (key ≠ "base_url".toList → c'.baseUrl = c.baseUrl) := by
  rcases set_cases key value with ⟨-, hset⟩ | ⟨haccepted, hset⟩
  · obtain ⟨e, he⟩ := hset c
    rw [he] at h
    cases h
  · obtain ⟨c₁, hc₁, hother, -, hurl⟩ := hset c
    rw [hc₁, Except.ok.injEq] at h
    subst h
    refine ⟨fun hkey => ⟨hurl hkey, ?_⟩, hother⟩
    -- A blank value is refused.
    by_contra! hblank
    subst hkey
    exact haccepted (.blankBaseUrl fun x hx => by simpa using hblank x hx)

/-- After `setAll` the base URL is the last one given, which was not blank as it was given, less the
    slashes at its end. -/
theorem baseUrl_setAll {c c' : Config} {settings : List (Text × Text)}
    (h : c.setAll settings = .ok c') :
    c'.baseUrl =
        ((lastSet? "base_url".toList settings).map (Text.trimEnd (· = '/'))).getD c.baseUrl ∧
      ∀ value, lastSet? "base_url".toList settings = some value →
        ∃ x ∈ value, Text.isWhiteSpace x = false := by
  -- The statement is kept by each setting, so it holds of those that have been read so far.
  refine foldlM_read (P := fun settings c' => c'.baseUrl =
        ((lastSet? "base_url".toList settings).map (Text.trimEnd (· = '/'))).getD c.baseUrl ∧
      ∀ value, lastSet? "base_url".toList settings = some value →
        ∃ x ∈ value, Text.isWhiteSpace x = false) (fun read s c₁ c₂ _ hset hread => ?_) h
    ⟨rfl, fun value hvalue => nomatch hvalue⟩
  obtain ⟨hurl, hother⟩ := baseUrl_of_set hset
  rw [lastSet?_concat]
  by_cases hkey : s.1 = "base_url".toList
  · obtain ⟨htrim, hblank⟩ := hurl hkey
    rw [if_pos hkey]
    refine ⟨htrim, fun value hvalue => ?_⟩
    rwa [← Option.some.inj hvalue]
  · rw [if_neg hkey, hother hkey]
    exact hread

/-! ## Blank base URLs -/

/-- What `Text.trimEnd` leaves of a text without the slashes at its end is blank just if the text is
    white space up to these slashes. -/
private theorem blank_trimEnd_iff {t : Text} :
    (∀ x ∈ Text.trimEnd (· = '/') t, Text.isWhiteSpace x = true) ↔
      ∃ blank n, (∀ x ∈ blank, Text.isWhiteSpace x = true) ∧ t = blank ++ List.replicate n '/' := by
  constructor
  · intro hblank
    obtain ⟨n, hn⟩ := Text.exists_trimEnd_append_replicate '/' t
    exact ⟨_, n, hblank, hn⟩
  · rintro ⟨blank, n, hblank, rfl⟩
    -- A slash is no white space, so all slashes at the end are those that are dropped.
    have hslash : '/' ∉ blank := fun hm => absurd (hblank _ hm) (by decide)
    rwa [Text.trimEnd_append_replicate hslash]

/-- After any settings that `setAll` accepts, the base URL is `defaultBaseUrl` or the last one
    given, without the slashes at its end, so that it ends in none.  It is blank just if a base URL
    was given, and the last one was blank in front of one slash or more. -/
theorem baseUrl_after_settings {settings : List (Text × Text)} {c : Config}
    (h : default.setAll settings = .ok c) :
    c.baseUrl.getLast? ≠ some '/' ∧
    c.baseUrl =
      ((lastSet? "base_url".toList settings).map (Text.trimEnd (· = '/'))).getD defaultBaseUrl ∧
    ((∀ x ∈ c.baseUrl, Text.isWhiteSpace x = true) ↔
      ∃ blank n, (∀ x ∈ blank, Text.isWhiteSpace x = true) ∧
        lastSet? "base_url".toList settings = some (blank ++ List.replicate (n + 1) '/')) := by
  obtain ⟨hurl, hgiven⟩ := baseUrl_setAll h
  refine ⟨?_, hurl, ?_⟩
  · rw [hurl]
    cases lastSet? "base_url".toList settings with
    | none => decide
    | some value => exact Text.getLast?_trimEnd_ne (by decide) value
  · rw [hurl]
    cases hlast : lastSet? "base_url".toList settings with
    | none =>
      -- The default has letters.
      have hdefault : ¬∀ x ∈ defaultBaseUrl, Text.isWhiteSpace x = true :=
        fun hblank => absurd (hblank 'w' (by decide)) (by decide)
      simpa [default] using hdefault
    | some value =>
      rw [Option.map_some, Option.getD_some, blank_trimEnd_iff]
      refine exists_congr fun blank => ⟨?_, ?_⟩
      · rintro ⟨n, hblank, rfl⟩
        -- Without a slash the value would be blank, and it would not have been accepted.
        obtain ⟨x, hx, hx'⟩ := hgiven _ hlast
        cases n with
        | zero =>
          rw [List.replicate_zero, List.append_nil] at hx
          rw [hblank x hx] at hx'
          cases hx'
        | succ n => exact ⟨n, hblank, rfl⟩
      · rintro ⟨n, hblank, hvalue⟩
        exact ⟨n + 1, hblank, Option.some.inj hvalue⟩

/-- A blank base URL that has passed the check of `Config.set`: a space and two slashes, after one
    in order. -/
theorem baseUrl_after_settings_slashes :
    let settings := [("base_url".toList, "/w/".toList), ("base_url".toList, " //".toList),
      ("output.color".toList, "no".toList)]
    default.setAll settings = .ok ⟨" ".toList, some false⟩ ∧
      ∀ x ∈ " ".toList, Text.isWhiteSpace x = true := by
  intro settings
  have hset : default.setAll settings = .ok ⟨" ".toList, some false⟩ := by decide +kernel
  obtain ⟨-, -, hblank⟩ := baseUrl_after_settings hset
  have hspace : ∀ x ∈ " ".toList, Text.isWhiteSpace x = true := List.all_eq_true.mp (by decide)
  exact ⟨hset, hblank.mpr ⟨" ".toList, 1, hspace, by decide +kernel⟩⟩

/-- `Config.set` accepts one slash as a base URL, and keeps nothing of it. -/
theorem slash_leaves_blank_baseUrl :
    ¬∀ (settings : List (Text × Text)) (c : Config), default.setAll settings = .ok c →
      (∃ x ∈ c.baseUrl, Text.isWhiteSpace x = false) ∧ c.baseUrl.getLast? ≠ some '/' := by
  intro h
  have hset : default.setAll [("base_url".toList, "/".toList)] = .ok ⟨[], none⟩ := by
    decide +kernel
  obtain ⟨x, hx, -⟩ := (h _ _ hset).1
  cases hx

end Config

end Facets
