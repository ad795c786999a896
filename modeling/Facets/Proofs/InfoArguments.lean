import Facets.Info
import Facets.Proofs.ExceptLemmas
import Facets.Proofs.LastValue
import Facets.Proofs.Segmentation

/-!
# What the arguments of browse settings amount to

`Info.build` reads the arguments of a category into a draft, one by one, and the filters at the
end.  Of all arguments only the last of each name has a say (`Info.build_eq`): the settings are a
function of five texts, each of which may be missing.

So two lists of arguments with the same last values describe the same settings or fail with the
same error, and a specification that is at fault does no harm before another one.
-/

namespace Facets

/-! ## Names of arguments -/

/-- The name of an argument of browse settings. -/
def InfoParam.name : InfoParam → Text
  | .filters => "filters".toList
  | .title => "title".toList
  | .displayParameters => "display parameters".toList
  | .printouts => "printouts".toList
  | .exportFormat => "export format".toList

/-- `InfoParam.names` has one name for each meaning. -/
private theorem InfoParam.names_eq :
    names = [.filters, .title, .displayParameters, .printouts, .exportFormat].map
      fun m => (m.name, m) := rfl

/-- `InfoParam.ofName?` knows each meaning by its name. -/
theorem InfoParam.ofName?_eq_some_iff {name : Text} {m : InfoParam} :
    ofName? name = some m ↔ name = m.name := by
  have hnodup : (names.map Prod.fst).Nodup := by decide +kernel
  rw [ofName?, lookup_eq_some_iff_mem hnodup, names_eq, List.mem_map]
  constructor
  · rintro ⟨m', -, h⟩
    cases h
    rfl
  · rintro rfl
    exact ⟨m, by cases m <;> simp, rfl⟩

/-- The value of the last argument of a name. -/
def InfoParam.lastValue? (m : InfoParam) (params : List Param) : Option Text :=
  Param.lastValue? [m.name] params

/-- An argument has the name of one meaning only. -/
private theorem InfoParam.isNamed_eq (m : InfoParam) (p : Param) :
    p.isNamed [m.name] = decide (p.name.bind ofName? = some m) := by
  obtain ⟨name, value⟩ := p
  cases name with
  | none => rfl
  | some name => simp [Param.isNamed, ofName?_eq_some_iff]

/-- `InfoParam.lastValue?` gives nothing just if the name does not occur. -/
theorem InfoParam.lastValue?_eq_none_iff {m : InfoParam} {params : List Param} :
    m.lastValue? params = none ↔ ∀ p ∈ params, p.name ≠ some m.name := by
  rw [InfoParam.lastValue?, Param.lastValue?_eq_none_iff]
  refine forall₂_congr fun p _ => ?_
  obtain ⟨name, value⟩ := p
  cases name with
  | none => simp [Param.isNamed]
  | some name => simp [Param.isNamed]

namespace Info

/-! ## Drafts -/

/-- The draft in which each part is set by a value of its name, if there is one. -/
def Draft.ofValues (value? : InfoParam → Option Text) : Draft where
  specification := (value? .filters).getD []
  title := (value? .title).bind nonEmpty?
  displayParameters := (value? .displayParameters).bind nonEmpty?
  printouts := (value? .printouts).bind nonEmpty?
  exportFormat := (value? .exportFormat).bind nonEmpty?

/-- What `Draft.add` does to a draft: each part is set by the arguments of its name. -/
theorem Draft.add_eq (d : Draft) (p : Param) :
    d.add p =
      { specification :=
          if p.isNamed [InfoParam.filters.name] then p.value else d.specification
        title := if p.isNamed [InfoParam.title.name] then nonEmpty? p.value else d.title
        displayParameters :=
          if p.isNamed [InfoParam.displayParameters.name] then nonEmpty? p.value
          else d.displayParameters
        printouts :=
          if p.isNamed [InfoParam.printouts.name] then nonEmpty? p.value else d.printouts
        exportFormat :=
          if p.isNamed [InfoParam.exportFormat.name] then nonEmpty? p.value
          else d.exportFormat } := by
  rw [add]
  simp only [InfoParam.isNamed_eq]
  -- By the meaning of the name, which is none for most names.
  cases p.name.bind InfoParam.ofName? with
  | none => simp
  | some m => cases m <;> simp

/-- After all arguments each part of a draft is set by the last value of its name. -/
private theorem Draft.foldl_add (params : List Param) :
    params.foldl add {} = ofValues fun m => m.lastValue? params := by
  have hbind : ∀ m : InfoParam, ((m.lastValue? params).map nonEmpty?).getD none =
      (m.lastValue? params).bind nonEmpty? := by
    intro m
    cases m.lastValue? params with
    | none => rfl
    | some t => rfl
  -- Each part is set by the arguments of one name, and by no others.
  have hspecification := Param.foldl_lastValue add specification id
    (fun d p => by rw [add_eq]; rfl) params {}
  have htitle := Param.foldl_lastValue add title nonEmpty? (fun d p => by rw [add_eq]) params {}
  have hdisplay := Param.foldl_lastValue add displayParameters nonEmpty?
    (fun d p => by rw [add_eq]) params {}
  have hprintouts := Param.foldl_lastValue add printouts nonEmpty?
    (fun d p => by rw [add_eq]) params {}
  have hexport := Param.foldl_lastValue add exportFormat nonEmpty?
    (fun d p => by rw [add_eq]) params {}
  rw [Option.map_id] at hspecification
  -- A draft is known from its five parts.
  rw [ofValues, ← hbind, ← hbind, ← hbind, ← hbind]
  cases hd : params.foldl add {}
  rw [hd] at hspecification htitle hdisplay hprintouts hexport
  rw [Draft.mk.injEq]
  exact ⟨hspecification, htitle, hdisplay, hprintouts, hexport⟩

/-! ## Settings -/

/-- `Info.build` reads the draft of the last values. -/
theorem build_eq (params : List Param) :
    build params = (Draft.ofValues fun m => m.lastValue? params).info := by
  rw [build, Draft.foldl_add]

/-- `Info.build` depends on the last values only. -/
private theorem build_congr {p q : List Param}
    (h : ∀ m : InfoParam, m.lastValue? p = m.lastValue? q) :
    build p = build q := by
  have hvalues : (fun m : InfoParam => m.lastValue? p) = fun m => m.lastValue? q := funext h
  rw [build_eq, build_eq, hvalues]

/-- An argument makes no difference to `Info.build` before another one of its name. -/
private theorem build_drop (m : InfoParam) (before between after : List Param) (v w : Text) :
    build (before ++ ⟨some m.name, v⟩ :: (between ++ ⟨some m.name, w⟩ :: after)) =
      build (before ++ (between ++ ⟨some m.name, w⟩ :: after)) := by
  refine build_congr fun m' => Param.lastValue?_append_cons (fun hname => ?_) before
  -- A name that the earlier argument has is the name of the later one.
  exact ⟨⟨some m.name, w⟩, by simp, hname⟩

/-- `Draft.info` gives settings if the specification is read, with all else as it stands. -/
theorem Draft.info_eq_ok {d : Draft} {i : Info} (h : d.info = .ok i) :
    Catalog.parse d.specification = .ok i.filters ∧ i.title = d.title ∧
      i.displayParameters = d.displayParameters ∧ i.printouts = d.printouts ∧
      i.exportFormat = d.exportFormat := by
  rw [info] at h
  obtain ⟨c, hparse, h⟩ := exists_ok_of_bind_eq_ok h
  cases h
  exact ⟨hparse, rfl, rfl, rfl, rfl⟩

/-- `Draft.info` fails just if the specification does. -/
private theorem Draft.info_eq_error_iff {d : Draft} {e : FilterError} :
    d.info = .error e ↔ Catalog.parse d.specification = .error e := by
  rw [info]
  cases Catalog.parse d.specification with
  | error e' => simp [bind, Except.bind]
  | ok c => simp [bind, Except.bind, pure, Except.pure]

/-- `Catalog.parse` reads the empty specification. -/
private theorem parse_nil : Catalog.parse [] = .ok .empty :=
  Catalog.addSpecification_of_close_not_mem .empty List.not_mem_nil

/-- `Info.build` fails just if the last specification does. -/
private theorem build_eq_error_iff {params : List Param} {e : FilterError} :
    build params = .error e ↔
      ∃ t, InfoParam.filters.lastValue? params = some t ∧ Catalog.parse t = .error e := by
  rw [build_eq, Draft.info_eq_error_iff, Draft.ofValues]
  -- Without any specification the empty one is read, and that succeeds.
  cases InfoParam.filters.lastValue? params with
  | none => simp [parse_nil]
  | some t => simp

/-- The fields that may be missing, with the arguments that set them. -/
def optionalFields : List (InfoParam × (Info → Option Text)) :=
  [(.title, Info.title), (.displayParameters, Info.displayParameters),
    (.printouts, Info.printouts), (.exportFormat, Info.exportFormat)]

/-- `nonEmpty?` leaves nothing of a value that is missing or empty. -/
private theorem bind_nonEmpty?_eq_none_iff {value? : Option Text} :
    value?.bind nonEmpty? = none ↔ value? = none ∨ value? = some [] := by
  cases value? with
  | none => simp
  | some t =>
    rw [Option.bind_some, nonEmpty?]
    split <;> simp_all

/-- A field of what `Info.build` gives has the last value of its name, unless that is empty. -/
private theorem field_of_build {params : List Param} {i : Info} (h : build params = .ok i)
    {f : InfoParam × (Info → Option Text)} (hf : f ∈ optionalFields) :
    f.2 i = (f.1.lastValue? params).bind nonEmpty? := by
  rw [build_eq] at h
  obtain ⟨-, htitle, hdisplay, hprintouts, hexport⟩ := Draft.info_eq_ok h
  simp only [optionalFields, List.mem_cons, List.not_mem_nil, or_false] at hf
  rcases hf with rfl | rfl | rfl | rfl
  · exact htitle
  · exact hdisplay
  · exact hprintouts
  · exact hexport

/-- `Info.build` depends on the last argument of each name only, whether it reads the settings or
    fails. An argument before another one of its name does nothing, not even if it is a
    specification at fault: reading fails just if the last specification does, and with its error.
    A field is missing just if its name does not occur or was last given an empty value. -/
theorem build_lastValues :
    (∀ p q : List Param, (∀ m : InfoParam, m.lastValue? p = m.lastValue? q) →
        build p = build q) ∧
      (∀ (m : InfoParam) (before between after : List Param) (v w : Text),
        build (before ++ ⟨some m.name, v⟩ :: (between ++ ⟨some m.name, w⟩ :: after)) =
          build (before ++ (between ++ ⟨some m.name, w⟩ :: after))) ∧
      (∀ params e, build params = .error e ↔
        ∃ t, InfoParam.filters.lastValue? params = some t ∧ Catalog.parse t = .error e) ∧
      ∀ params i, build params = .ok i →
        Catalog.parse ((InfoParam.filters.lastValue? params).getD []) = .ok i.filters ∧
          ∀ f ∈ optionalFields,
            f.2 i = (f.1.lastValue? params).bind nonEmpty? ∧
              (f.2 i = none ↔ (∀ p ∈ params, p.name ≠ some f.1.name) ∨
                f.1.lastValue? params = some []) := by
  refine ⟨fun p q => build_congr, build_drop, fun params e => build_eq_error_iff,
    fun params i h => ⟨?_, fun f hf => ?_⟩⟩
  · rw [build_eq] at h
    exact (Draft.info_eq_ok h).1
  · -- The field is what is left of the last value.
    have hfield := field_of_build h hf
    refine ⟨hfield, ?_⟩
    rw [hfield, bind_nonEmpty?_eq_none_iff, InfoParam.lastValue?_eq_none_iff]

/-- A specification with an unknown key and a title are overwritten by empty values, so that the
    arguments say no more than the empty values alone. -/
theorem build_lastValues_overwritten :
    build [⟨some "filters".toList, "F(x=1)".toList⟩, ⟨some "title".toList, "A".toList⟩,
        ⟨some "filters".toList, []⟩, ⟨some "title".toList, []⟩] =
      build [⟨some "title".toList, []⟩, ⟨none, "title".toList⟩, ⟨some "filters".toList, []⟩] ∧
      ∃ i, build [⟨some "title".toList, []⟩, ⟨none, "title".toList⟩,
        ⟨some "filters".toList, []⟩] = .ok i ∧ i.title = none := by
  have hvalues : ∀ m : InfoParam,
      m.lastValue? [⟨some "filters".toList, "F(x=1)".toList⟩, ⟨some "title".toList, "A".toList⟩,
        ⟨some "filters".toList, []⟩, ⟨some "title".toList, []⟩] =
      m.lastValue? [⟨some "title".toList, []⟩, ⟨none, "title".toList⟩,
        ⟨some "filters".toList, []⟩] := by
    intro m
    cases m <;> decide +kernel
  have hspecification : InfoParam.filters.lastValue? [⟨some "title".toList, []⟩,
      ⟨none, "title".toList⟩, ⟨some "filters".toList, []⟩] = some [] := by
    decide +kernel
  refine ⟨build_lastValues.1 _ _ hvalues, ?_⟩
  cases hbuild : build [⟨some "title".toList, []⟩, ⟨none, "title".toList⟩,
      ⟨some "filters".toList, []⟩] with
  | error e =>
    -- The last specification is the empty one, which is read.
    obtain ⟨t, ht, hparse⟩ := (build_lastValues.2.2.1 _ e).mp hbuild
    rw [hspecification, Option.some.injEq] at ht
    rw [← ht, parse_nil] at hparse
    cases hparse
  | ok i =>
    have htitle := (build_lastValues.2.2.2 _ i hbuild).2 (.title, Info.title) List.mem_cons_self
    exact ⟨i, rfl, htitle.2.mpr (.inr (by decide +kernel))⟩

end Info

end Facets
