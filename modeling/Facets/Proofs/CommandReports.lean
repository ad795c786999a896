import Facets.Proofs.ActionLaws
import Facets.Proofs.KeyedLemmas

/-!
# What commands print

The documents that commands write have texts for the names of their members, so `Json.writePretty`
and `Json.writeCompact` never fail on them.  Hence the last part of each command, which prints
what it has found, cannot fail either, wherever in it a document is written: all it does is to
print one text (`Action.showInfo_eq` and its siblings).  `Report.info` and its siblings say which.
-/

namespace Facets

/-! ## Documents that can be written -/

/-- `SettingValue.toJson` gives a text or an array of texts. -/
private theorem SettingValue.hasTextNames_toJson (v : SettingValue) :
    v.toJson.hasTextNames = true := by
  cases v <;> simp [toJson]

/-- `Catalog.toJson` gives a document that can be written. -/
private theorem Catalog.hasTextNames_toJson (c : Catalog) : c.toJson.hasTextNames = true := by
  simp [toJson, Filter.toJson, Setting.toJson, SettingValue.hasTextNames_toJson]

/-- `Query.toJson` names members by keys, which are texts, whatever they hold. -/
private theorem Query.hasTextNames_toJson (q : Query) : q.toJson.hasTextNames = true := by
  simp [toJson]

private theorem Config.hasTextNames_toJson (c : Config) : c.toJson.hasTextNames = true := by
  cases hc : c.color <;> simp [toJson, hc, Json.hasTextNames]

/-- `Info.writePageProperties` always succeeds. -/
private theorem Info.writePageProperties_eq (i : Info) :
    i.writePageProperties = .ok i.pageProperties := by
  rw [writePageProperties, Json.writeCompact_of_hasTextNames i.filters.hasTextNames_toJson]
  rfl

namespace Report

private theorem hasTextNames_catalogJson (c : Catalog) : (catalogJson c).hasTextNames = true := by
  simp [catalogJson, c.hasTextNames_toJson]

/-- `pagePropertiesJson` gives a document that can be written, since properties have texts for
    values. -/
private theorem hasTextNames_pagePropertiesJson (properties : List (PageProperty × Text)) :
    (pagePropertiesJson properties).hasTextNames = true := by
  rw [pagePropertiesJson, Json.hasTextNames_fields, List.all_eq_true]
  -- All members that have been put so far can be written.
  suffices hall : ∀ ms : List (Text × Json), (∀ m ∈ ms, m.2.hasTextNames = true) →
      ∀ m ∈ properties.foldl
        (fun ms p => Keyed.putSorted Prod.fst (p.1.name, Json.text p.2) ms) ms,
        m.2.hasTextNames = true from hall [] nofun
  induction properties with
  | nil => exact fun ms hms => hms
  | cons p properties ih =>
    intro ms hms
    refine ih _ fun m hm => ?_
    -- A member was put just now, or was there before.
    cases Keyed.mem_of_mem_putSorted hm with
    | inl hp =>
      rw [hp]
      exact Json.hasTextNames_text p.2
    | inr hm => exact hms m hm

private theorem hasTextNames_infoJson (i : Info) (properties : List (PageProperty × Text)) :
    (infoJson i properties).hasTextNames = true := by
  simp [infoJson, Info.jsonFields, i.filters.hasTextNames_toJson, hasTextNames_pagePropertiesJson]

private theorem hasTextNames_linkJson (l : Link) (base : Text) :
    (linkJson l base).hasTextNames = true := by
  simp [linkJson, Link.jsonFields, l.query.hasTextNames_toJson]

private theorem hasTextNames_configJson (path : Text) (present : Bool) (c : Config) :
    (configJson path present c).hasTextNames = true := by
  simp [configJson, c.hasTextNames_toJson, Json.hasTextNames]

private theorem hasTextNames_configPathJson (path : Text) (present : Bool) :
    (configPathJson path present).hasTextNames = true := by
  simp [configPathJson, Json.hasTextNames]

private theorem hasTextNames_configSetJson (path key value : Text) :
    (configSetJson path key value).hasTextNames = true := by
  simp [configSetJson]

/-! ## Texts -/

/-- What is printed for a catalog. -/
def catalog (o : Options) (colors : Bool) (c : Catalog) : Text :=
  if o.json then line (catalogJson c).pretty
  else if o.quiet then []
  else c.table colors

/-- What is printed for the browse settings of a page. -/
def info (o : Options) (colors : Bool) (i : Info) : Text :=
  if o.json then line (infoJson i i.pageProperties).pretty
  else if o.quiet then []
  else i.table colors ++
    if o.verbose then line [] ++ i.pageProperties.flatMap pageProperty else []

/-- What is printed for a link. -/
def link (o : Options) (html : Bool) (base : Text) (l : Link) : Text :=
  if o.json then line (linkJson l base).pretty
  else if html then line (l.anchor base).html
  else line (l.href base)

/-- What is printed for a configuration, where it is kept, and whether it is there. -/
def config (o : Options) (path : Text) (present : Bool) (c : Config) : Text :=
  if o.json then line (configJson path present c).pretty
  else if o.quiet then []
  else configText (!o.noColor) path present c

/-- What is printed for the place of a configuration. -/
def configPath (o : Options) (path : Text) (present : Bool) : Text :=
  if o.json then line (configPathJson path present).pretty
  else line path

/-- What is printed when a value of the configuration has been changed. -/
def configSet (o : Options) (path key value : Text) : Text :=
  if o.json then line (configSetJson path key value).pretty
  else if o.quiet then []
  else line ("Set ".toList ++ key ++ " = ".toList ++ value)

end Report

namespace Action

/-- `printJson` prints a document in which all names are texts. -/
private theorem printJson_of_hasTextNames {j : Json} (h : j.hasTextNames = true) :
    printJson j = print (line j.pretty) := by
  rw [printJson, Json.writePretty_of_hasTextNames h, ofExcept_ok, pure_bind]

/-- `--quiet` keeps a text from being printed. -/
theorem unless_print (quiet : Bool) (t : Text) :
    (unless quiet do print t) = print (if quiet then [] else t) := by
  cases quiet with
  | true => exact print_nil.symm
  | false => rfl

/-- The three ways of printing something that has been found come to one `print`. -/
private theorem printJson_or_print {json quiet : Bool} {j : Json} (h : j.hasTextNames = true)
    (t : Text) :
    (if json then printJson j else unless quiet do print t) =
      print (if json then line j.pretty else if quiet then [] else t) := by
  cases json with
  | true => exact printJson_of_hasTextNames h
  | false => exact unless_print quiet t

/-- `showCatalog` prints one text. -/
theorem showCatalog_eq (o : Options) (colors : Bool) (c : Catalog) :
    showCatalog o colors c = print (Report.catalog o colors c) :=
  printJson_or_print (Report.hasTextNames_catalogJson c) _

/-- `showInfo` prints one text, since the properties can be written when the table has been
    printed. -/
theorem showInfo_eq (o : Options) (colors : Bool) (i : Info) :
    showInfo o colors i = print (Report.info o colors i) := by
  unfold showInfo Report.info
  rw [i.writePageProperties_eq, ofExcept_ok]
  simp only [pure_bind]
  -- What was a step that might fail is now a value, and the rest prints in four ways.
  cases o.json with
  | true => exact printJson_of_hasTextNames (Report.hasTextNames_infoJson i _)
  | false =>
    cases o.quiet with
    | true => exact print_nil.symm
    | false =>
      cases o.verbose with
      | true =>
        -- The lines of the properties are printed one by one.
        have hlines := forM_print Report.pageProperty i.pageProperties
        simp only [hlines, Bool.false_eq_true, if_false, if_true, print_append]
      | false =>
        simp only [Bool.false_eq_true, if_false, List.append_nil]
        exact bind_pure _

/-- `showLink` prints one text. -/
theorem showLink_eq (o : Options) (html : Bool) (base : Text) (l : Link) :
    showLink o html base l = print (Report.link o html base l) := by
  unfold showLink Report.link
  rw [printJson_of_hasTextNames (Report.hasTextNames_linkJson l base)]
  split
  · rfl
  split
  · rfl
  · rfl

/-- `showConfig` prints one text once all is found. -/
theorem showConfig_eq (env : Environment) (o : Options) :
    showConfig env o = (do
      let c ← loadConfig env
      let path ← ofExcept .config env.configPath
      let present ← look (·.pathExists path)
      print (Report.config o path present c)) := by
  unfold showConfig
  simp only [printJson_or_print (Report.hasTextNames_configJson _ _ _)]
  rfl

/-- `showConfigPath` prints one text once the path is found. -/
theorem showConfigPath_eq (env : Environment) (o : Options) :
    showConfigPath env o = (do
      let path ← ofExcept .config env.configPath
      let present ← look (·.pathExists path)
      print (Report.configPath o path present)) := by
  unfold showConfigPath Report.configPath
  simp only [printJson_of_hasTextNames (Report.hasTextNames_configPathJson _ _)]
  cases o.json with
  | true => rfl
  | false => rfl

/-- `setConfig` prints one text once the configuration is saved. -/
theorem setConfig_eq (env : Environment) (o : Options) (key value : Text) :
    setConfig env o key value = (do
      let c ← loadConfig env
      let path ← ofExcept .config env.configPath
      let c' ← ofExcept .config (c.set key value)
      saveConfig env c'
      print (Report.configSet o path key value)) := by
  unfold setConfig
  simp only [printJson_or_print (Report.hasTextNames_configSetJson _ _ _)]
  rfl

end Action

/-! ## Runs -/

variable {env : Environment} {files : FileTree} {i : Invocation} {p : Progress}

/-- `runInvocation` ends with exit code 0 and what has been printed if the command succeeds. -/
theorem runInvocation_of_ok (h : Action.perform (execute env i) ⟨files, []⟩ = (.ok (), p)) :
    runInvocation env files i = (⟨0, p.stdout, []⟩, p.files) := by
  rw [runInvocation, h]

/-- `runInvocation` ends with the exit code of the error if the command fails, and reports it
    besides what has been printed. -/
theorem runInvocation_of_error {e : CommandError}
    (h : Action.perform (execute env i) ⟨files, []⟩ = (.error e, p)) :
    runInvocation env files i = (⟨e.exit, p.stdout, e.report i.options.json⟩, p.files) := by
  rw [runInvocation, h]

end Facets
