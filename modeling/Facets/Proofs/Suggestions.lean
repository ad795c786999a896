import Facets.Filter.Setting
import Facets.Proofs.EditScripts

/-!
# Suggestions for unknown keys

An unknown key is met with the key that takes the fewest edits to reach from its lower case, if
three are enough (`FilterError.suggestion?_unknownSetting`).  Of keys that are equally near the one
that stands first among all keys is suggested: that is what it means to be the first of a list with
the least distance (`FilterError.IsNearest`), and there is only one such key.
-/

namespace Facets

/-! ## Lower case -/

namespace Text

/-- `lowerLetter` loses no letter. -/
private theorem lowerLetter_ne_nil (c : Char) : lowerLetter c ≠ [] := by
  rw [lowerLetter]
  split
  · simp
  · split <;> simp

/-- `lowerCase` makes a text empty only if it was. -/
theorem lowerCase_eq_nil_iff {t : Text} : lowerCase t = [] ↔ t = [] := by
  cases t with
  | nil => simp [lowerCase, lowerCaseAfter]
  | cons c t =>
    rw [lowerCase, lowerCaseAfter]
    simp only [List.append_eq_nil_iff, reduceCtorEq, iff_false, not_and]
    intro hletter
    split at hletter
    · split at hletter <;> cases hletter
    · exact absurd hletter (lowerLetter_ne_nil c)

/-- `lowerLetter` is `Char.toLower` as far as that knows letters. -/
private theorem lowerLetter_ascii {c : Char} (h : c.toNat < 128) : lowerLetter c = [c.toLower] := by
  -- All characters are tried.
  have hall : ∀ n < 128, lowerLetter (Char.ofNat n) = [(Char.ofNat n).toLower] := by decide +kernel
  have hc := hall c.toNat h
  rwa [Char.ofNat_toNat] at hc

/-- `lowerCase` goes letter by letter on a text in ASCII, where no letter depends on its
    neighbours. -/
theorem lowerCase_ascii {t : Text} (h : ∀ c ∈ t, c.toNat < 128) :
    lowerCase t = t.map Char.toLower := by
  rw [lowerCase]
  generalize [] = before
  induction t generalizing before with
  | nil => rfl
  | cons c t ih =>
    obtain ⟨hc, ht⟩ := List.forall_mem_cons.mp h
    have hsigma : c ≠ 'Σ' := by
      rintro rfl
      exact absurd hc (by decide)
    rw [lowerCaseAfter, if_neg hsigma, lowerLetter_ascii hc, ih ht, List.map_cons,
      List.singleton_append]

/-- A sigma at the end of a word has a form of its own. -/
example : lowerCase "ΌΣΟΣ".toList = "όσος".toList := by decide +kernel

end Text

/-- `SettingKey.all` lists the keys there are. -/
private theorem SettingKey.mem_all (k : SettingKey) : k ∈ all := by
  cases k <;> decide

namespace FilterError

/-! ## The nearest key -/

section Nearest

variable {distance : SettingKey → Nat} {ks : List SettingKey}

/-- Whether a key is the first of some keys with the least distance. -/
def IsNearest (distance : SettingKey → Nat) (ks : List SettingKey) (k : SettingKey) : Prop :=
  ∃ before after, ks = before ++ k :: after ∧
    (∀ k' ∈ before, distance k < distance k') ∧ ∀ k' ∈ after, distance k ≤ distance k'

/-- The key that `IsNearest` is one of the keys. -/
theorem IsNearest.mem {k : SettingKey} (h : IsNearest distance ks k) : k ∈ ks := by
  obtain ⟨before, after, rfl, -, -⟩ := h
  simp

/-- No key is nearer than the one that `IsNearest`. -/
theorem IsNearest.le {k k' : SettingKey} (h : IsNearest distance ks k) (hk' : k' ∈ ks) :
    distance k ≤ distance k' := by
  obtain ⟨before, after, rfl, hbefore, hafter⟩ := h
  rcases List.mem_append.mp hk' with hk' | hk'
  · exact (hbefore k' hk').le
  · rcases List.mem_cons.mp hk' with rfl | hk'
    · exact le_refl _
    · exact hafter k' hk'

/-- In front of other keys `IsNearest` holds of a key unless one of them is strictly nearer. -/
private theorem isNearest_cons {k₀ k : SettingKey} :
    IsNearest distance (k₀ :: ks) k ↔
      (k = k₀ ∧ ∀ k' ∈ ks, distance k ≤ distance k') ∨
        (distance k < distance k₀ ∧ IsNearest distance ks k) := by
  constructor
  · rintro ⟨before, after, hks, hbefore, hafter⟩
    cases before with
    | nil =>
      obtain ⟨rfl, rfl⟩ := List.cons.inj hks
      exact .inl ⟨rfl, hafter⟩
    | cons k₁ before =>
      obtain ⟨rfl, rfl⟩ := List.cons.inj hks
      rw [List.forall_mem_cons] at hbefore
      exact .inr ⟨hbefore.1, before, after, rfl, hbefore.2, hafter⟩
  · rintro (⟨rfl, hafter⟩ | ⟨hlt, before, after, rfl, hbefore, hafter⟩)
    · exact ⟨[], ks, rfl, by simp, hafter⟩
    · exact ⟨k₀ :: before, after, rfl, by simpa using ⟨hlt, hbefore⟩, hafter⟩

/-- `IsNearest` holds of one key only, wherever it stands. -/
theorem IsNearest.unique {k k' : SettingKey} (h : IsNearest distance ks k)
    (h' : IsNearest distance ks k') : k = k' := by
  induction ks with
  | nil => exact absurd h.mem List.not_mem_nil
  | cons k₀ ks ih =>
    -- Either key may be the first one; if just one of them is, the other is strictly nearer and
    -- not.
    rcases isNearest_cons.mp h with ⟨rfl, hfirst⟩ | ⟨hlt, hrest⟩
    · rcases isNearest_cons.mp h' with ⟨rfl, -⟩ | ⟨hlt', hrest'⟩
      · rfl
      · have hle := hfirst k' hrest'.mem
        omega
    · rcases isNearest_cons.mp h' with ⟨rfl, hfirst'⟩ | ⟨-, hrest'⟩
      · have hle := hfirst' k hrest.mem
        omega
      · exact ih hrest hrest'

/-- `nearest?` finds the key that `IsNearest`, with its distance. -/
private theorem exists_nearest?_eq (distance : SettingKey → Nat) (hne : ks ≠ []) :
    ∃ k, nearest? distance ks = some (k, distance k) ∧ IsNearest distance ks k := by
  induction ks with
  | nil => exact absurd rfl hne
  | cons k₀ ks ih =>
    rw [nearest?]
    by_cases hks : ks = []
    · subst hks
      exact ⟨k₀, rfl, isNearest_cons.mpr (.inl ⟨rfl, by simp⟩)⟩
    · obtain ⟨k, hk, hnearest⟩ := ih hks
      rw [hk]
      simp only
      -- The first key gives way only to one that is strictly nearer.
      split
      · rename_i hlt
        exact ⟨k, rfl, isNearest_cons.mpr (.inr ⟨hlt, hnearest⟩)⟩
      · rename_i hlt
        refine ⟨k₀, rfl, isNearest_cons.mpr (.inl ⟨rfl, fun k' hk' => ?_⟩)⟩
        have hle := hnearest.le hk'
        omega

end Nearest

/-! ## Suggestions -/

/-- The number of edits from a text in lower case to the name of a key. -/
def keyDistance (t : Text) (k : SettingKey) : Nat := Text.editDistance (Text.lowerCase t) k.name

/-- `suggestion?` is the nearest key, unless that is too far or nothing was written. -/
private theorem exists_suggestion?_eq {t : Text} (ht : t ≠ []) :
    ∃ k, IsNearest (keyDistance t) SettingKey.all k ∧
      (unknownSetting t).suggestion? = if keyDistance t k ≤ 3 then some k else none := by
  have hlower : Text.lowerCase t ≠ [] := fun h => ht (Text.lowerCase_eq_nil_iff.mp h)
  have hall : SettingKey.all ≠ [] := by decide
  obtain ⟨k, hk, hnearest⟩ := exists_nearest?_eq (keyDistance t) hall
  refine ⟨k, hnearest, ?_⟩
  have hunfold : (unknownSetting t).suggestion? =
      if Text.lowerCase t = [] then none
      else (nearest? (keyDistance t) SettingKey.all).bind fun p =>
        if p.2 ≤ maxDistance then some p.1 else none := rfl
  rw [hunfold, if_neg hlower, hk]
  rfl

private theorem suggestion?_nil : (unknownSetting []).suggestion? = none := rfl

/-- `suggestion?` gives nothing just if nothing was written or all keys are too far. -/
private theorem suggestion?_eq_none_iff {t : Text} :
    (unknownSetting t).suggestion? = none ↔ t = [] ∨ ∀ k, 3 < keyDistance t k := by
  by_cases ht : t = []
  · simp [ht, suggestion?_nil]
  · obtain ⟨k, hnearest, hsuggestion⟩ := exists_suggestion?_eq ht
    rw [hsuggestion]
    constructor
    · intro h
      refine .inr fun k' => ?_
      -- If the nearest key is too far, so are the others.
      have hle := hnearest.le k'.mem_all
      have hfar : ¬keyDistance t k ≤ 3 := fun hnear => by simp [hnear] at h
      omega
    · rintro (h | h)
      · exact absurd h ht
      · rw [if_neg (by have := h k; omega)]

/-- `suggestion?` gives just the key that is near enough and the nearest. -/
private theorem suggestion?_eq_some_iff {t : Text} {k : SettingKey} :
    (unknownSetting t).suggestion? = some k ↔
      t ≠ [] ∧ keyDistance t k ≤ 3 ∧ IsNearest (keyDistance t) SettingKey.all k := by
  by_cases ht : t = []
  · simp [ht, suggestion?_nil]
  · obtain ⟨k₀, hnearest, hsuggestion⟩ := exists_suggestion?_eq ht
    rw [hsuggestion]
    constructor
    · intro h
      split at h
      · rename_i hnear
        cases h
        exact ⟨ht, hnear, hnearest⟩
      · cases h
    · rintro ⟨-, hnear, hk⟩
      obtain rfl := hk.unique hnearest
      rw [if_pos hnear]

/-- `keyDistance` exceeds just the numbers that all scripts for the key exceed. -/
private theorem lt_keyDistance_iff {t : Text} {k : SettingKey} {n : Nat} :
    n < keyDistance t k ↔ ∀ m ∈ Text.scriptLengths (Text.lowerCase t) k.name, n < m := by
  have hleast := Text.isLeast_editDistance (Text.lowerCase t) k.name
  exact ⟨fun h m hm => h.trans_le (hleast.2 hm), fun h => h _ hleast.1⟩

/-- `keyDistance` reaches just the numbers that all scripts for the key reach. -/
private theorem le_keyDistance_iff {t : Text} {k : SettingKey} {n : Nat} :
    n ≤ keyDistance t k ↔ ∀ m ∈ Text.scriptLengths (Text.lowerCase t) k.name, n ≤ m := by
  have hleast := Text.isLeast_editDistance (Text.lowerCase t) k.name
  exact ⟨fun h m hm => h.trans (hleast.2 hm), fun h => h _ hleast.1⟩

/-- For an unknown key there is no `suggestion?` just if it is empty, or if each key takes more than
    three edits to reach from its lower case.  Else it is the key that takes the fewest, and of
    several such keys the first one.  The distance that `Text.editDistance` computes row by row is
    the least number of edits between any two texts. -/
theorem suggestion?_unknownSetting :
    (∀ t : Text,
      ((unknownSetting t).suggestion? = none ↔ t = [] ∨
        ∀ k : SettingKey, ∀ n ∈ Text.scriptLengths (Text.lowerCase t) k.name, 3 < n) ∧
      ∀ k : SettingKey, (unknownSetting t).suggestion? = some k ↔ t ≠ [] ∧
        ∃ n ≤ 3, IsLeast (Text.scriptLengths (Text.lowerCase t) k.name) n ∧
          ∃ before after, [.property, .category, .requires, .group] = before ++ k :: after ∧
            (∀ k' ∈ before, ∀ m ∈ Text.scriptLengths (Text.lowerCase t) k'.name, n < m) ∧
            ∀ k' ∈ after, ∀ m ∈ Text.scriptLengths (Text.lowerCase t) k'.name, n ≤ m) ∧
    ∀ s t : Text, IsLeast (Text.scriptLengths s t) (Text.editDistance s t) := by
  refine ⟨fun t => ⟨?_, fun k => ?_⟩, Text.isLeast_editDistance⟩
  · simp only [suggestion?_eq_none_iff, lt_keyDistance_iff]
  · have hleast := Text.isLeast_editDistance (Text.lowerCase t) k.name
    rw [suggestion?_eq_some_iff]
    -- Distances become statements on all scripts, and the least one is the only least one.
    simp only [IsNearest, lt_keyDistance_iff, le_keyDistance_iff]
    refine and_congr_right fun _ => ⟨?_, ?_⟩
    · rintro ⟨hnear, hnearest⟩
      exact ⟨keyDistance t k, hnear, hleast, hnearest⟩
    · rintro ⟨n, hnear, hn, hnearest⟩
      obtain rfl : n = keyDistance t k := hn.unique hleast
      exact ⟨hnear, hnearest⟩

/-- In upper case a key is far from any key as it stands, and yet it is suggested. -/
theorem suggestion?_unknownSetting_upperCase :
    (unknownSetting "PROPERTY".toList).suggestion? = some .property ∧
      ∀ k : SettingKey, ∀ n ∈ Text.scriptLengths "PROPERTY".toList k.name, 3 < n := by
  obtain ⟨hsuggestion, hleast⟩ := suggestion?_unknownSetting
  have hlower : Text.lowerCase "PROPERTY".toList = SettingKey.property.name := by
    rw [Text.lowerCase_ascii (by simp)]
    rfl
  constructor
  · have hsame : IsLeast (Text.scriptLengths (Text.lowerCase "PROPERTY".toList)
        SettingKey.property.name) 0 := by
      rw [hlower]
      exact hleast _ _
    refine ((hsuggestion _).2 .property).mpr ⟨by decide, 0, by decide, hsame, [],
      [.category, .requires, .group], rfl, nofun, ?_⟩
    exact fun _ _ m _ => Nat.zero_le m
  · intro k n hn
    have hfar : 3 < Text.editDistance "PROPERTY".toList k.name := by
      cases k <;> decide
    exact hfar.trans_le ((hleast _ _).2 hn)

/-- `property` and `group` are both three edits away. -/
example : (unknownSetting "Groper".toList).suggestion? = some .property := by decide +kernel

end FilterError

end Facets
