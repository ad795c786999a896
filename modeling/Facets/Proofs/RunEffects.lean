import Facets.Proofs.CommandReports
import Facets.Proofs.ExceptLemmas

/-!
# Effects of a run

What a run can do to the files it sees, and what its exit code says (`run_effects`).  A run that
fails leaves every file as it was, also where it has made directories before, and it prints
nothing but its error.  Only `config set` changes a file, and only that of the configuration.

That nothing is printed or written before something fails is a matter of the order in which a
command takes its steps: `failsWithoutTrace_execute` follows it, command by command, by the rules
of `Action.FailsWithoutTrace`.

`Command.StopsWith` says which errors a command stops with, in the order in which they are looked
for; an exit code is then the kind of the error.
-/

namespace Facets

open FileTree Facets.Action

/-! ## Errors -/

/-- Whether a command needs the configuration to be in order. -/
def Command.needsConfig : Command → Bool
  | .info _ | .filters _ | .link _ _ | .configShow | .configSet _ _ => true
  | .hint | .configPath | .completions _ => false

/-- The error that a command stops with, if it does. -/
inductive Command.StopsWith (env : Environment) (files : FileTree) : Command → CommandError → Prop
  | notLoaded {c : Command} {e : ConfigError} (needs : c.needsConfig = true)
      (load : Config.load env files = .error e) : StopsWith env files c (.config e)
  | noPath {e : ConfigError} (path : env.configPath = .error e) :
      StopsWith env files .configPath (.config e)
  | notSet {key value : Text} {c : Config} {e : ConfigError} (load : Config.load env files = .ok c)
      (set : c.set key value = .error e) : StopsWith env files (.configSet key value) (.config e)
  | notSaved {key value path : Text} {c c' : Config} {e : ConfigError}
      (load : Config.load env files = .ok c) (path_eq : env.configPath = .ok path)
      (set : c.set key value = .ok c') (save : (Config.saveTo files path c').2 = some e) :
      StopsWith env files (.configSet key value) (.config e)
  | filters {specification : Text} {c : Config} {e : FilterError}
      (load : Config.load env files = .ok c) (parse : Catalog.parse specification = .error e) :
      StopsWith env files (.filters specification) (.filter e)
  | info {arguments : List Text} {c : Config} {e : FilterError}
      (load : Config.load env files = .ok c)
      (build : Info.build (arguments.map Param.parse) = .error e) :
      StopsWith env files (.info arguments) (.filter e)

variable {env : Environment} {files : FileTree} {p p' : Progress} {e : CommandError}

/-- `Config.load` reads from a path, so there is one. -/
private theorem exists_configPath_of_load {c : Config} (h : Config.load env files = .ok c) :
    ∃ path, env.configPath = .ok path := by
  obtain ⟨path, hpath, -⟩ := exists_ok_of_bind_eq_ok h
  exact ⟨path, hpath⟩

namespace Action

variable {α β ε : Type}

/-- `ofExcept` in front of an action decides whether that is taken. -/
private theorem perform_ofExcept_bind (kind : ε → CommandError) (r : Except ε α) (f : α → Action β)
    (p : Progress) :
    perform (ofExcept kind r >>= f) p =
      match r with
      | .ok x => perform (f x) p
      | .error e => (.error (kind e), p) := by
  rw [perform_bind]
  cases r with
  | ok x => rfl
  | error e => rfl

/-- So does `loadConfig`, by the configuration that is there. -/
theorem perform_loadConfig_bind (env : Environment) (f : Config → Action β) (p : Progress) :
    perform (loadConfig env >>= f) p =
      match Config.load env p.files with
      | .ok c => perform (f c) p
      | .error e => (.error (.config e), p) := by
  rw [loadConfig, bind_assoc, perform_bind_of_ok (perform_look _ p), perform_ofExcept_bind]
  cases Config.load env p.files with
  | ok c => rfl
  | error e => rfl

/-- An error behind `ofExcept` is its own, or that of the action which follows. -/
private theorem error_of_ofExcept_bind {kind : ε → CommandError} {r : Except ε α} {f : α → Action β}
    (h : perform (ofExcept kind r >>= f) p = (.error e, p')) :
    (∃ e', r = .error e' ∧ e = kind e') ∨ ∃ x, r = .ok x ∧ perform (f x) p = (.error e, p') := by
  rw [perform_ofExcept_bind] at h
  cases r with
  | ok x => exact .inr ⟨x, rfl, h⟩
  | error e' =>
    cases h
    exact .inl ⟨e', rfl, rfl⟩

/-- A command that begins with `loadConfig` stops because of it, or afterwards. -/
private theorem notLoaded_or_of_loadConfig_bind {c : Command} (needs : c.needsConfig = true)
    {f : Config → Action β} (h : perform (loadConfig env >>= f) p = (.error e, p')) :
    c.StopsWith env p.files e ∨
      ∃ config, Config.load env p.files = .ok config ∧ perform (f config) p = (.error e, p') := by
  rw [perform_loadConfig_bind] at h
  cases hload : Config.load env p.files with
  | error e' =>
    rw [hload] at h
    cases h
    exact .inl (.notLoaded needs hload)
  | ok config =>
    rw [hload] at h
    exact .inr ⟨config, rfl, h⟩

/-- An action that `NeverFails` gives no error. -/
private theorem NeverFails.ne_error {a : Action α} (ha : NeverFails a) :
    perform a p ≠ (.error e, p') := by
  obtain ⟨x, q, hx⟩ := ha p
  rw [hx]
  exact nofun

/-! ## Setting a value of the configuration -/

/-- `setConfig` needs the configuration to be in order. -/
private theorem setConfig_of_not_loaded {e : ConfigError} (h : Config.load env p.files = .error e)
    (o : Options) (key value : Text) :
    perform (setConfig env o key value) p = (.error (.config e), p) := by
  rw [setConfig_eq, perform_loadConfig_bind, h]

/-- `setConfig` stops before it saves if `Config.set` refuses the value. -/
theorem setConfig_of_not_set {c : Config} (hload : Config.load env p.files = .ok c)
    {key value : Text} {e : ConfigError} (hset : c.set key value = .error e) (o : Options) :
    perform (setConfig env o key value) p = (.error (.config e), p) := by
  obtain ⟨path, hpath⟩ := exists_configPath_of_load hload
  simp only [setConfig_eq, perform_loadConfig_bind, perform_ofExcept_bind, hload, hpath, hset]

/-- Once `setConfig` knows the new value to be in order, all depends on saving it. -/
theorem setConfig_of_set {c c' : Config} {key value path : Text}
    (hload : Config.load env p.files = .ok c) (hpath : env.configPath = .ok path)
    (hset : c.set key value = .ok c') (o : Options) :
    perform (setConfig env o key value) p =
      match (Config.saveTo p.files path c').2 with
      | some e => (.error (.config e), { p with files := (Config.saveTo p.files path c').1 })
      | none => (.ok (), ⟨(Config.saveTo p.files path c').1,
          p.stdout ++ Report.configSet o path key value⟩) := by
  simp only [setConfig_eq, perform_loadConfig_bind, hload, hpath, hset, saveConfig, ofExcept_ok,
    pure_bind]
  -- What is left is to save and then to print, and only the first of these can fail.
  rw [perform_bind, perform_saveTo]
  cases (Config.saveTo p.files path c').2 with
  | none => rfl
  | some e => rfl

end Action

/-! ## Errors of commands -/

/-- The error of `setConfig` comes before it writes anything, or when it saves. -/
private theorem stopsWith_of_setConfig {o : Options} {key value : Text}
    (h : perform (setConfig env o key value) p = (.error e, p')) :
    (Command.configSet key value).StopsWith env p.files e := by
  -- One case for each step that can fail, in their order: each later one knows the earlier to have
  -- succeeded.
  cases hload : Config.load env p.files with
  | error e' =>
    rw [setConfig_of_not_loaded hload] at h
    cases h
    exact .notLoaded rfl hload
  | ok c =>
    cases hset : c.set key value with
    | error e' =>
      rw [setConfig_of_not_set hload hset] at h
      cases h
      exact .notSet hload hset
    | ok c' =>
      obtain ⟨path, hpath⟩ := exists_configPath_of_load hload
      rw [setConfig_of_set hload hpath hset] at h
      cases hsave : (Config.saveTo p.files path c').2 with
      | none =>
        rw [hsave] at h
        cases h
      | some e' =>
        rw [hsave] at h
        cases h
        exact .notSaved hload hpath hset hsave

/-- `showCatalog` prints, and does nothing that could fail. -/
private theorem neverFails_showCatalog (o : Options) (colors : Bool) (c : Catalog) :
    NeverFails (showCatalog o colors c) := by
  rw [showCatalog_eq]
  exact neverFails_print _

/-- `showInfo` writes a document after it has begun to print, but it can. -/
private theorem neverFails_showInfo (o : Options) (colors : Bool) (i : Info) :
    NeverFails (showInfo o colors i) := by
  rw [showInfo_eq]
  exact neverFails_print _

/-- `showLink` prints one of three texts. -/
private theorem neverFails_showLink (o : Options) (html : Bool) (base : Text) (l : Link) :
    NeverFails (showLink o html base l) := by
  rw [showLink_eq]
  exact neverFails_print _

/-- `showHint` prints, or does nothing. -/
private theorem neverFails_showHint (o : Options) : NeverFails (showHint o) := by
  rw [showHint, unless_print]
  exact neverFails_print _

/-- `showCompletions` prints, for any shell. -/
private theorem neverFails_showCompletions (env : Environment) (shell : Shell) :
    NeverFails (showCompletions env shell) :=
  (neverFails_print _).bind fun _ => neverFails_pure ()

/-- `execute` fails only with an error for which `Command.StopsWith` holds. -/
private theorem stopsWith_of_execute {i : Invocation}
    (h : perform (execute env i) p = (.error e, p')) : i.command.StopsWith env p.files e := by
  obtain ⟨o, command⟩ := i
  cases command with
  | hint => exact absurd h (neverFails_showHint o).ne_error
  | completions shell => exact absurd h (neverFails_showCompletions env shell).ne_error
  | configSet key value => exact stopsWith_of_setConfig h
  | configPath =>
    have hshow : perform (showConfigPath env o) p = (.error e, p') := h
    rw [showConfigPath_eq] at hshow
    rcases error_of_ofExcept_bind hshow with ⟨e', hpath, rfl⟩ | ⟨path, -, hprint⟩
    · -- The path is all that is looked for; what follows prints.
      exact .noPath hpath
    · cases hprint
  | configShow =>
    have hshow : perform (showConfig env o) p = (.error e, p') := h
    rw [showConfig_eq] at hshow
    rcases notLoaded_or_of_loadConfig_bind (c := .configShow) rfl hshow with
      hstops | ⟨c, hload, hrest⟩
    · exact hstops
    · -- The configuration has been loaded from its path.
      obtain ⟨path, hpath⟩ := exists_configPath_of_load hload
      rw [hpath] at hrest
      cases hrest
  | filters specification =>
    rcases notLoaded_or_of_loadConfig_bind (c := .filters specification) rfl h with
      hstops | ⟨c, hload, hrest⟩
    · exact hstops
    rcases error_of_ofExcept_bind hrest with ⟨e', hparse, rfl⟩ | ⟨catalog, -, hshow⟩
    · exact .filters hload hparse
    · -- Once the specification is read, nothing fails any more.
      exact absurd hshow (neverFails_showCatalog o _ catalog).ne_error
  | info arguments =>
    rcases notLoaded_or_of_loadConfig_bind (c := .info arguments) rfl h with
      hstops | ⟨c, hload, hrest⟩
    · exact hstops
    rcases error_of_ofExcept_bind hrest with ⟨e', hbuild, rfl⟩ | ⟨info, -, hshow⟩
    · exact .info hload hbuild
    · exact absurd hshow (neverFails_showInfo o _ info).ne_error
  | link html arguments =>
    rcases notLoaded_or_of_loadConfig_bind (c := .link html arguments) rfl h with
      hstops | ⟨c, -, hshow⟩
    · exact hstops
    · exact absurd hshow (neverFails_showLink o html _ _).ne_error

/-- A command that `StopsWith` an error fails with it. -/
private theorem execute_of_stopsWith {i : Invocation} (h : i.command.StopsWith env p.files e) :
    (perform (execute env i) p).1 = .error e := by
  obtain ⟨o, command⟩ := i
  cases h with
  | @notLoaded c e needs load =>
    -- Every command that needs the configuration loads it first, so nothing else of it matters.
    have hrest {f : Config → Action Unit} :
        (perform (loadConfig env >>= f) p).1 = .error (.config e) := by
      rw [perform_loadConfig_bind, load]
    cases command with
    | hint => cases needs
    | configPath => cases needs
    | completions shell => cases needs
    | configSet key value => exact hrest
    | configShow => exact hrest
    | filters specification => exact hrest
    | info arguments => exact hrest
    | link html arguments => exact hrest
  | noPath path =>
    show (perform (showConfigPath env o) p).1 = _
    rw [showConfigPath_eq, perform_ofExcept_bind, path]
  | notSet load set => exact congrArg Prod.fst (setConfig_of_not_set load set o)
  | notSaved load path_eq set save =>
    refine (congrArg Prod.fst (setConfig_of_set load path_eq set o)).trans ?_
    rw [save]
  | filters load parse =>
    simp only [execute, perform_loadConfig_bind, perform_ofExcept_bind, load, parse]
  | info load build =>
    simp only [execute, perform_loadConfig_bind, perform_ofExcept_bind, load, build]

/-! ## The order of the steps -/

/-- Whether the only file that differs between two trees is the one at a path, and it has some
    content afterwards. -/
def ChangesOnly (path content : Text) (files files' : FileTree) : Prop :=
  ∃ l, files'.locate path = .ok l ∧
    ∀ m, files'.fileAt? m = if m = l then some content else files.fileAt? m

/-- A configuration that `Config.saveTo` cannot save leaves all files as they were, and one that is
    saved changes the file that its path leads to. -/
private theorem fileAt?_saveTo (es : List (Text × FileTree)) (path : Text) (c : Config) :
    (∃ e, (Config.saveTo (directory es) path c).2 = some e ∧
      (Config.saveTo (directory es) path c).1.fileAt? = (directory es).fileAt?) ∨
    (Config.saveTo (directory es) path c).2 = none ∧
      ChangesOnly path c.stored (directory es) (Config.saveTo (directory es) path c).1 := by
  have hparent := fileAt?_makeParent es path
  -- Making the directories changes no file, whether or not all of them can be made.
  unfold Config.saveTo
  cases hmade : (directory es).makeParent path with
  | mk made e? =>
    rw [hmade] at hparent
    cases e? with
    | some e => exact .inl ⟨_, rfl, hparent⟩
    | none =>
      cases hwrite : made.write path c.stored with
      | error e =>
        -- The directories are there, but the file cannot be written.
        simp only [hwrite]
        exact .inl ⟨_, rfl, hparent⟩
      | ok files' =>
        simp only [hwrite]
        obtain ⟨l, hl, hfile⟩ := fileAt?_write hwrite
        refine .inr ⟨trivial, l, hl, fun m => ?_⟩
        rw [hfile m, ← hparent]

/-- `saveTo` leaves no trace where it fails, the directories apart. -/
private theorem failsWithoutTrace_saveTo (path : Text) (c : Config) :
    FailsWithoutTrace (saveTo path c) := by
  intro es stdout e p' h
  rw [perform_saveTo] at h
  rcases fileAt?_saveTo es path c with ⟨e', hsave, hsame⟩ | ⟨hsave, -⟩
  · simp only [hsave] at h
    cases h
    exact ⟨rfl, hsame⟩
  · simp only [hsave] at h
    cases h

/-- Nor does `saveConfig`, which looks up the path again, and that only checks. -/
private theorem failsWithoutTrace_saveConfig (env : Environment) (c : Config) :
    FailsWithoutTrace (saveConfig env c) :=
  (onlyChecks_ofExcept _ _).bind_failsWithoutTrace fun path => failsWithoutTrace_saveTo path c

/-- In every command what can fail comes first, and what prints comes last, so `execute` fails
    without a trace. -/
theorem failsWithoutTrace_execute (env : Environment) (i : Invocation) :
    FailsWithoutTrace (execute env i) := by
  obtain ⟨o, command⟩ := i
  -- Each case reads off the steps of a command: checks in front, and at the end what cannot fail.
  cases command with
  | hint => exact (neverFails_showHint o).failsWithoutTrace
  | completions shell => exact (neverFails_showCompletions env shell).failsWithoutTrace
  | configSet key value =>
    show FailsWithoutTrace (setConfig env o key value)
    rw [setConfig_eq]
    refine (onlyChecks_loadConfig env).bind_failsWithoutTrace fun c => ?_
    refine (onlyChecks_ofExcept _ _).bind_failsWithoutTrace fun path => ?_
    refine (onlyChecks_ofExcept _ _).bind_failsWithoutTrace fun c' => ?_
    -- Saving may fail, so nothing but printing may come after it.
    exact (failsWithoutTrace_saveConfig env c').bind fun _ => neverFails_print _
  | configShow =>
    show FailsWithoutTrace (showConfig env o)
    rw [showConfig_eq]
    refine (onlyChecks_loadConfig env).bind_failsWithoutTrace fun c => ?_
    refine (onlyChecks_ofExcept _ _).bind_failsWithoutTrace fun path => ?_
    refine (onlyChecks_look _).bind_failsWithoutTrace fun present => ?_
    exact (neverFails_print _).failsWithoutTrace
  | configPath =>
    show FailsWithoutTrace (showConfigPath env o)
    rw [showConfigPath_eq]
    refine (onlyChecks_ofExcept _ _).bind_failsWithoutTrace fun path => ?_
    refine (onlyChecks_look _).bind_failsWithoutTrace fun present => ?_
    exact (neverFails_print _).failsWithoutTrace
  | filters specification =>
    refine (onlyChecks_loadConfig env).bind_failsWithoutTrace fun c => ?_
    refine (onlyChecks_ofExcept _ _).bind_failsWithoutTrace fun catalog => ?_
    exact (neverFails_showCatalog o _ catalog).failsWithoutTrace
  | info arguments =>
    refine (onlyChecks_loadConfig env).bind_failsWithoutTrace fun c => ?_
    refine (onlyChecks_ofExcept _ _).bind_failsWithoutTrace fun info => ?_
    exact (neverFails_showInfo o _ info).failsWithoutTrace
  | link html arguments =>
    refine (onlyChecks_loadConfig env).bind_failsWithoutTrace fun c => ?_
    exact (neverFails_showLink o html _ _).failsWithoutTrace

/-- `execute` leaves the files alone, unless the command is `config set`. -/
private theorem keepsFiles_execute (env : Environment) {i : Invocation}
    (h : ∀ key value, i.command ≠ .configSet key value) : KeepsFiles (execute env i) := by
  obtain ⟨o, command⟩ := i
  have hload : KeepsFiles (loadConfig env) := (onlyChecks_loadConfig env).keepsFiles
  cases command with
  | configSet key value => exact absurd rfl (h key value)
  | hint =>
    show KeepsFiles (showHint o)
    rw [showHint, unless_print]
    exact keepsFiles_print _
  | completions shell =>
    exact (keepsFiles_print _).bind fun _ => (onlyChecks_ofExcept _ _).keepsFiles
  | configShow =>
    show KeepsFiles (showConfig env o)
    rw [showConfig_eq]
    refine hload.bind fun c => (onlyChecks_ofExcept _ _).keepsFiles.bind fun path => ?_
    exact (onlyChecks_look _).keepsFiles.bind fun present => keepsFiles_print _
  | configPath =>
    show KeepsFiles (showConfigPath env o)
    rw [showConfigPath_eq]
    refine (onlyChecks_ofExcept _ _).keepsFiles.bind fun path => ?_
    exact (onlyChecks_look _).keepsFiles.bind fun present => keepsFiles_print _
  | filters specification =>
    refine hload.bind fun c => (onlyChecks_ofExcept _ _).keepsFiles.bind fun catalog => ?_
    rw [showCatalog_eq]
    exact keepsFiles_print _
  | info arguments =>
    refine hload.bind fun c => (onlyChecks_ofExcept _ _).keepsFiles.bind fun info => ?_
    rw [showInfo_eq]
    exact keepsFiles_print _
  | link html arguments =>
    refine hload.bind fun c => ?_
    rw [showLink_eq]
    exact keepsFiles_print _

/-- What a `setConfig` that succeeds has stored: the configuration with the value set. -/
private theorem changesOnly_of_setConfig {es : List (Text × FileTree)} {o : Options}
    {key value stdout : Text}
    (h : perform (setConfig env o key value) ⟨directory es, stdout⟩ = (.ok (), p')) :
    ∃ path c c', env.configPath = .ok path ∧ Config.load env (directory es) = .ok c ∧
      c.set key value = .ok c' ∧ ChangesOnly path c'.stored (directory es) p'.files := by
  cases hload : Config.load env (directory es) with
  | error e =>
    rw [setConfig_of_not_loaded hload] at h
    cases h
  | ok c =>
    cases hset : c.set key value with
    | error e =>
      rw [setConfig_of_not_set hload hset] at h
      cases h
    | ok c' =>
      obtain ⟨path, hpath⟩ := exists_configPath_of_load hload
      rw [setConfig_of_set hload hpath hset] at h
      -- It has succeeded, so it has been saved.
      rcases fileAt?_saveTo es path c' with ⟨e, hsave, -⟩ | ⟨hsave, hchanges⟩
      · simp only [hsave] at h
        cases h
      · simp only [hsave] at h
        cases h
        exact ⟨path, c, c', hpath, rfl, hset, hchanges⟩

/-! ## Runs -/

/-- What a run for a request may do, from its outcome and the files before and after it. -/
structure RunEffects (env : Environment) (files : FileTree) (request : Request)
    (outcome : Outcome) (files' : FileTree) : Prop where
  /-- A run that fails prints nothing but its error and changes no file. -/
  failure (h : outcome.exit ≠ 0) : outcome.stdout = [] ∧ files'.fileAt? = files.fileAt?
  /-- Only a run of `config set` changes a file. -/
  unchanged (h : ∀ o key value, request ≠ .run ⟨o, .configSet key value⟩) :
    files'.fileAt? = files.fileAt?
  /-- A run of `config set` that succeeds changes the file of the configuration only, which then
      holds what was loaded with the value set. -/
  changed {o : Options} {key value : Text} (h : request = .run ⟨o, .configSet key value⟩)
      (h' : outcome.exit = 0) :
    ∃ path c c', env.configPath = .ok path ∧ Config.load env files = .ok c ∧
      c.set key value = .ok c' ∧ ChangesOnly path c'.stored files files'
  exit_mem : outcome.exit = 0 ∨ outcome.exit = 1 ∨ outcome.exit = 5
  exit_eq_one_iff : outcome.exit = 1 ↔
    ∃ i e, request = .run i ∧ i.command.StopsWith env files (.filter e)
  exit_eq_five_iff : outcome.exit = 5 ↔
    ∃ i e, request = .run i ∧ i.command.StopsWith env files (.config e)
  /-- A link is made unless the configuration cannot be loaded. -/
  link {o : Options} {html : Bool} {params : List Text}
      (h : request = .run ⟨o, .link html params⟩) :
    outcome.exit ≠ 0 ↔ ∃ e, Config.load env files = .error e

/-- `RunEffects` of a request for the version or for help, which prints it, and that is all. -/
private theorem runEffects_of_answer {request : Request} (h : ∀ i, request ≠ .run i) (t : Text) :
    RunEffects env files request ⟨0, t, []⟩ files where
  failure h' := absurd rfl h'
  unchanged _ := rfl
  changed h' := absurd h' (h _)
  exit_mem := .inl rfl
  exit_eq_one_iff := ⟨nofun, fun ⟨i, _, hi, _⟩ => absurd hi (h i)⟩
  exit_eq_five_iff := ⟨nofun, fun ⟨i, _, hi, _⟩ => absurd hi (h i)⟩
  link h' := absurd h' (h _)

/-- `link` stops only where `Config.load` fails. -/
private theorem stopsWith_link_iff {html : Bool} {params : List Text} {e : CommandError} :
    (Command.link html params).StopsWith env files e ↔
      ∃ e', Config.load env files = .error e' ∧ e = .config e' := by
  constructor
  · intro h
    cases h with
    | notLoaded needs load => exact ⟨_, load, rfl⟩
  · rintro ⟨e', load, rfl⟩
    exact .notLoaded rfl load

/-- `RunEffects` of a command that succeeds: it stops with nothing, and changes at most the
    configuration. -/
private theorem runEffects_of_ok {es : List (Text × FileTree)} {i : Invocation}
    (h : perform (execute env i) ⟨directory es, []⟩ = (.ok (), p)) :
    RunEffects env (directory es) (.run i) ⟨0, p.stdout, []⟩ p.files := by
  -- It would have failed with an error that it stops with.
  have hnot (e : CommandError) (he : i.command.StopsWith env (directory es) e) : False := by
    have herror := execute_of_stopsWith (p := ⟨directory es, []⟩) he
    rw [h] at herror
    cases herror
  exact {
    failure := fun h' => absurd rfl h'
    unchanged := fun h' => by
      have hkeeps : KeepsFiles (execute env i) :=
        keepsFiles_execute env fun key value hi => h' i.options key value (by rw [← hi])
      have hfiles := hkeeps ⟨directory es, []⟩
      rw [h] at hfiles
      exact congrArg fileAt? hfiles
    changed := fun {o key value} hi _ => by
      cases hi
      exact changesOnly_of_setConfig h
    exit_mem := .inl rfl
    exit_eq_one_iff := by
      refine ⟨nofun, ?_⟩
      rintro ⟨_, e, ⟨⟩, he⟩
      exact (hnot _ he).elim
    exit_eq_five_iff := by
      refine ⟨nofun, ?_⟩
      rintro ⟨_, e, ⟨⟩, he⟩
      exact (hnot _ he).elim
    link := by
      rintro o html params ⟨⟩
      refine ⟨fun h' => absurd rfl h', fun ⟨e, he⟩ => ?_⟩
      exact (hnot _ (stopsWith_link_iff.mpr ⟨e, he, rfl⟩)).elim }

/-- `StopsWith` knows errors of filter specifications and of the configuration only: no command
    fails at its output. -/
theorem Command.StopsWith.filter_or_config {c : Command} (h : c.StopsWith env files e) :
    (∃ e', e = .filter e') ∨ ∃ e', e = .config e' := by
  cases h with
  | notLoaded needs load => exact .inr ⟨_, rfl⟩
  | noPath path => exact .inr ⟨_, rfl⟩
  | notSet load set => exact .inr ⟨_, rfl⟩
  | notSaved load path_eq set save => exact .inr ⟨_, rfl⟩
  | filters load parse => exact .inl ⟨_, rfl⟩
  | info load build => exact .inl ⟨_, rfl⟩

/-- The `exit` code tells the two kinds of errors that occur apart. -/
private theorem Command.StopsWith.exit_iff {c : Command} (h : c.StopsWith env files e) :
    (e.exit = 1 ↔ ∃ e', e = .filter e') ∧ (e.exit = 5 ↔ ∃ e', e = .config e') := by
  rcases h.filter_or_config with ⟨e', rfl⟩ | ⟨e', rfl⟩
  · exact ⟨⟨fun _ => ⟨e', rfl⟩, fun _ => rfl⟩, nofun, fun ⟨_, h'⟩ => nomatch h'⟩
  · exact ⟨⟨nofun, fun ⟨_, h'⟩ => nomatch h'⟩, fun _ => ⟨e', rfl⟩, fun _ => rfl⟩

/-- `RunEffects` of a command that fails: it stops with that error and no other one.  By the order
    of its steps it has printed nothing and left all files. -/
private theorem runEffects_of_error {es : List (Text × FileTree)} {i : Invocation}
    (h : perform (execute env i) ⟨directory es, []⟩ = (.error e, p)) (stderr : Text) :
    RunEffects env (directory es) (.run i) ⟨e.exit, p.stdout, stderr⟩ p.files := by
  have hstops : i.command.StopsWith env (directory es) e := stopsWith_of_execute h
  -- A command fails with one error only, so there is no other one it stops with.
  have hunique (e' : CommandError) (he' : i.command.StopsWith env (directory es) e') : e' = e := by
    have herror := execute_of_stopsWith (p := ⟨directory es, []⟩) he'
    rw [h] at herror
    cases herror
    rfl
  -- That it has left no trace is not said by the error, but by the order of the steps.
  obtain ⟨hstdout, hfiles⟩ := failsWithoutTrace_execute env i es [] e p h
  -- No error has the exit code of success, not even those that do not occur.
  have hexit : e.exit ≠ 0 := by
    cases e <;> exact nofun
  -- It stops with an error of a kind just if its own error is of that kind.
  have hiff {ε : Type} (kind : ε → CommandError) : (∃ e', e = kind e') ↔
      ∃ j e', Request.run i = .run j ∧ j.command.StopsWith env (directory es) (kind e') := by
    constructor
    · rintro ⟨e', rfl⟩
      exact ⟨i, e', rfl, hstops⟩
    · rintro ⟨_, e', ⟨⟩, he'⟩
      exact ⟨e', (hunique _ he').symm⟩
  obtain ⟨hone, hfive⟩ := hstops.exit_iff
  exact {
    failure := fun _ => ⟨hstdout, hfiles⟩
    unchanged := fun _ => hfiles
    changed := fun _ h' => absurd h' hexit
    exit_mem := .inr (hstops.filter_or_config.imp hone.mpr hfive.mpr)
    exit_eq_one_iff := hone.trans (hiff .filter)
    exit_eq_five_iff := hfive.trans (hiff .config)
    link := by
      rintro o html params ⟨⟩
      -- The only error of a link is that of the configuration.
      obtain ⟨e', hload, -⟩ := stopsWith_link_iff.mp hstops
      exact ⟨fun _ => ⟨e', hload⟩, fun _ => hexit⟩ }

/-- What `run` may do in a directory, given a command line that can be read. -/
theorem run_effects {arguments : List Text} {request : Request}
    (hread : Request.ofArguments arguments = .ok request) (env : Environment)
    (es : List (Text × FileTree)) :
    RunEffects env (directory es) request (run env (directory es) arguments).1
      (run env (directory es) arguments).2 := by
  unfold run
  rw [hread]
  -- Answers take no step at all, and commands succeed or fail.
  cases request with
  | version path =>
    refine runEffects_of_answer (fun i => ?_) _
    exact nofun
  | help p =>
    refine runEffects_of_answer (fun i => ?_) _
    exact nofun
  | run i =>
    show RunEffects _ _ _ (runInvocation env (directory es) i).1 (runInvocation env _ i).2
    rcases hexecute : perform (execute env i) ⟨directory es, []⟩ with ⟨e | ⟨⟩, p⟩
    · rw [runInvocation_of_error hexecute]
      exact runEffects_of_error hexecute _
    · rw [runInvocation_of_ok hexecute]
      exact runEffects_of_ok hexecute

/-- A base URL is set where the configuration cannot be written: its path ends in a slash.  The
    directories above it have been made all the same. -/
theorem run_effects_slash :
    let env : Environment :=
      { configFile := some "a/b/".toList, configHome := none, home := none, baseUrl := none,
        noColor := false }
    let arguments := ["config".toList, "set".toList, "base_url".toList, "x".toList]
    let r := run env .empty arguments
    (∃ request, Request.ofArguments arguments = .ok request) ∧ r.1.exit = 5 ∧
      r.1.stdout = [] ∧ r.2.fileAt? = empty.fileAt? := by
  intro env arguments r
  have hread : Request.ofArguments arguments =
      .ok (.run ⟨{}, .configSet "base_url".toList "x".toList⟩) := rfl
  have heffects : RunEffects env .empty _ r.1 r.2 := run_effects hread env []
  have hexit : r.1.exit = 5 := by decide
  obtain ⟨hstdout, hfiles⟩ := heffects.failure (by rw [hexit]; decide)
  exact ⟨⟨_, hread⟩, hexit, hstdout, hfiles⟩

end Facets
