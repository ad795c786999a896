import Facets.Param
import Mathlib.Data.List.Induction

/-!
# Parameters of which the last one counts

Wiki functions read their parameters one by one, and of parameters with one name the last one
counts.  `Param.lastValue?` is its value, and the laws here say how it changes with the list: what
stands before a later parameter of the name makes no difference (`Param.lastValue?_append`).

`Param.foldl_lastValue` is what the functions have in common: a part of a state that only the
parameters of some names set is, after a run, what the last of them sets it to.
-/

namespace Facets

/-- Where each key stands once, `lookup` finds the value that the key stands with. -/
theorem lookup_eq_some_iff_mem {κ β : Type} [BEq κ] [LawfulBEq κ] {l : List (κ × β)}
    (h : (l.map Prod.fst).Nodup) {k : κ} {v : β} : l.lookup k = some v ↔ (k, v) ∈ l := by
  induction l with
  | nil => simp
  | cons p l ih =>
    obtain ⟨k', v'⟩ := p
    rw [List.map_cons, List.nodup_cons] at h
    by_cases hk : k = k'
    · -- The key does not stand in the rest.
      subst hk
      have hmem : (k, v) ∉ l := fun hm => h.1 (List.mem_map.mpr ⟨(k, v), hm, rfl⟩)
      simp [hmem, eq_comm]
    · have hk' : (k == k') = false := by simpa using hk
      rw [List.lookup_cons, hk', ih h.2]
      simp [hk]

namespace Param

/-- Whether a parameter has one of some names. -/
def isNamed (names : List Text) (p : Param) : Bool := p.name.any (names.contains ·)

/-- `lastValue?` changes only with a parameter of the right name. -/
private theorem lastValue?_append_singleton (names : List Text) (ps : List Param) (p : Param) :
    lastValue? names (ps ++ [p]) =
      if p.isNamed names then some p.value else lastValue? names ps := by
  rw [lastValue?, List.foldl_append]
  rfl

/-- `lastValue?` is the value of the last parameter that has one of the names. -/
private theorem lastValue?_eq_getLast? (names : List Text) (ps : List Param) :
    lastValue? names ps = (ps.filter (isNamed names)).getLast?.map value := by
  induction ps using List.reverseRecOn with
  | nil => rfl
  | append_singleton ps p ih =>
    rw [lastValue?_append_singleton, List.filter_append]
    by_cases hp : p.isNamed names
    · simp [hp]
    · simp [hp, ih]

/-- `lastValue?` gives nothing just if no parameter has the name. -/
theorem lastValue?_eq_none_iff {names : List Text} {ps : List Param} :
    lastValue? names ps = none ↔ ∀ p ∈ ps, p.isNamed names = false := by
  rw [lastValue?_eq_getLast?, Option.map_eq_none_iff, List.getLast?_eq_none_iff,
    List.filter_eq_nil_iff]
  simp

/-- Of `ps ++ qs` the second list has the last value, or else the first one. -/
theorem lastValue?_append (names : List Text) (ps qs : List Param) :
    lastValue? names (ps ++ qs) = (lastValue? names qs).or (lastValue? names ps) := by
  induction qs using List.reverseRecOn with
  | nil => rw [List.append_nil]; rfl
  | append_singleton qs q ih =>
    rw [← List.append_assoc, lastValue?_append_singleton, lastValue?_append_singleton, ih]
    split
    · rfl
    · rfl

/-- A parameter of another name, and one before another one of its name, make no difference to
    `lastValue?`. -/
theorem lastValue?_append_cons {names : List Text} {p : Param} {rest : List Param}
    (h : p.isNamed names = true → ∃ q ∈ rest, q.isNamed names = true) (before : List Param) :
    lastValue? names (before ++ p :: rest) = lastValue? names (before ++ rest) := by
  rw [List.append_cons, lastValue?_append names (before ++ [p]), lastValue?_append_singleton,
    lastValue?_append]
  split
  · rename_i hp
    -- The parameter has the name, but so has a later one, whose value hides it.
    obtain ⟨q, hq, hname⟩ := h hp
    cases hlast : lastValue? names rest with
    | none =>
      rw [lastValue?_eq_none_iff.mp hlast q hq] at hname
      cases hname
    | some v => rfl
  · rfl

/-- A `part` of a state that is set by the parameters of some names is set by `lastValue?` of them.
    -/
theorem foldl_lastValue {σ β : Type} (step : σ → Param → σ) (part : σ → β) {names : List Text}
    (f : Text → β)
    (h : ∀ d p, part (step d p) = if p.isNamed names then f p.value else part d)
    (ps : List Param) (d : σ) :
    part (ps.foldl step d) = ((lastValue? names ps).map f).getD (part d) := by
  -- The last parameter decides, so the induction takes parameters from the end.
  induction ps using List.reverseRecOn with
  | nil => rfl
  | append_singleton ps p ih =>
    rw [List.foldl_append, List.foldl_cons, List.foldl_nil, h, lastValue?_append_singleton]
    split
    · rfl
    · exact ih

end Param

end Facets
