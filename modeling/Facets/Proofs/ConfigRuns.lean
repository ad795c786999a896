import Facets.Proofs.BaseUrlOption
import Facets.Proofs.RunEffects
import Facets.Proofs.StoredConfig
import Facets.Proofs.TextLemmas

/-!
# Runs that change the configuration

Every run reads the whole configuration from its file, and a run of `config set` writes the whole
of it again.  Still the runs compose: after any of them, the configuration that counts is the
default with the values set that could be set, one after the other (`Config.set_runs_compose`).

The invariant is `Config.Kept`: a configuration is loaded from its path, and can be replaced there.
-/

namespace Facets

namespace Config

/-! ## Loading and saving -/

/-- `Kept files path c`: the configuration `c` is loaded from `path`, and another one can be saved
    there. -/
structure Kept (files : FileTree) (path : Text) (c : Config) : Prop where
  writable : files.Writable path
  /-- It is in order, so it does not matter what would be said if it were not. -/
  loaded (wording : Wording) : loadFrom wording files path = .ok c

/-- Where there is no file yet but one can be written, the default is `Kept`. -/
private theorem kept_default {files : FileTree} {path : Text}
    (habsent : files.pathExists path = false)
    (hwritable : files.Writable path) : Kept files path default := by
  refine ⟨hwritable, fun wording => ?_⟩
  rw [loadFrom, habsent]
  rfl

/-- `saveTo` succeeds at a path that can be written, and what it has saved is `Kept`. -/
private theorem exists_saveTo {files : FileTree} {path : Text} (h : files.Writable path)
    (c : Config) : ∃ files', saveTo files path c = (files', none) ∧ Kept files' path c := by
  -- The directories are made, the file is written, and it holds what is read again.
  obtain ⟨made, files', hparent, hwrite, hholds⟩ := h.exists_holdsFile c.stored
  refine ⟨files', ?_, hholds.writable, fun wording => ?_⟩
  · rw [saveTo, hparent]
    simp only [hwrite]
  · rw [loadFrom, if_pos hholds.pathExists_eq, hholds.read_eq]
    simp only [ofStored?_stored]

/-- `load` gives the configuration that is `Kept` at the path of the environment. -/
private theorem Kept.load_eq {env : Environment} {files : FileTree} {path : Text} {c : Config}
    (h : Kept files path c) (hpath : env.configPath = .ok path) : load env files = .ok c := by
  unfold load
  rw [hpath]
  exact h.loaded env.wording

/-! ## Changing one value -/

/-- The values that `Config.set` refuses under a key, whatever the configuration. -/
inductive Refuses : Text → Text → Prop
  | unknownKey {key value : Text} (h : key ≠ "base_url".toList) (h' : key ≠ "output.color".toList) :
      Refuses key value
  | blankBaseUrl {value : Text} (h : ∀ c ∈ value, Text.isWhiteSpace c = true) :
      Refuses "base_url".toList value
  | notBoolean {value : Text} (h : Text.lowerCase value ∉ trueWords)
      (h' : Text.lowerCase value ∉ falseWords) : Refuses "output.color".toList value

/-- `readBool` reads the words for true and for false, in upper or lower case. -/
private theorem exists_readBool {t : Text}
    (h : Text.lowerCase t ∈ trueWords ∨ Text.lowerCase t ∈ falseWords) :
    ∃ b, readBool t = .ok b := by
  unfold readBool
  by_cases htrue : Text.lowerCase t ∈ trueWords
  · exact ⟨true, if_pos htrue⟩
  · exact ⟨false, by rw [if_neg htrue, if_pos (h.resolve_left htrue)]⟩

/-- `Config.set` refuses a key and a value for every configuration, or for none; and then only the
    value of this key changes. -/
theorem set_cases (key value : Text) :
    (Refuses key value ∧ ∀ c : Config, ∃ e, c.set key value = .error e) ∨
      ¬Refuses key value ∧ ∀ c : Config, ∃ c', c.set key value = .ok c' ∧
        (key ≠ "base_url".toList → c'.baseUrl = c.baseUrl) ∧
        (key ≠ "output.color".toList → c'.color = c.color) ∧
        (key = "base_url".toList → c'.baseUrl = Text.trimEnd (· = '/') value) := by
  by_cases hurl : key = "base_url".toList
  · subst hurl
    -- The check is on the value with its slashes.
    by_cases hblank : Text.trim Text.isWhiteSpace value = []
    · refine .inl ⟨.blankBaseUrl (Text.trim_eq_nil_iff.mp hblank), fun c => ⟨.blankBaseUrl, ?_⟩⟩
      rw [set, if_pos rfl, if_pos hblank]
    · refine .inr ⟨fun h => ?_, fun c => ⟨_, by rw [set, if_pos rfl, if_neg hblank], ?_⟩⟩
      · cases h with
        | unknownKey h => exact h rfl
        | blankBaseUrl h => exact hblank (Text.trim_eq_nil_iff.mpr h)
      · exact ⟨fun h => absurd rfl h, fun _ => rfl, fun _ => rfl⟩
  by_cases hcolor : key = "output.color".toList
  · subst hcolor
    have hset (c : Config) : c.set "output.color".toList value =
        (do return { c with color := some (← readBool value) }) := by
      rw [set, if_neg hurl, if_pos rfl]
    -- A word for a truth value, or an error.
    by_cases hword : Text.lowerCase value ∈ trueWords ∨ Text.lowerCase value ∈ falseWords
    · obtain ⟨b, hb⟩ := exists_readBool hword
      refine .inr ⟨fun h => ?_, fun c => ⟨_, by rw [hset, hb]; rfl, ?_⟩⟩
      · cases h with
        | unknownKey _ h => exact h rfl
        | notBoolean h h' => exact hword.elim h h'
      · exact ⟨fun _ => rfl, fun h => absurd rfl h, fun h => absurd h hurl⟩
    · obtain ⟨htrue, hfalse⟩ := not_or.mp hword
      refine .inl ⟨.notBoolean htrue hfalse, fun c => ⟨.notBoolean value, ?_⟩⟩
      rw [hset, readBool, if_neg htrue, if_neg hfalse]
      rfl
  · -- There are no other keys.
    refine .inl ⟨.unknownKey hurl hcolor, fun c => ⟨.unknownKey key, ?_⟩⟩
    rw [set, if_neg hurl, if_neg hcolor]

end Config

/-! ## Runs -/

/-- A command line that `Request.ofArguments` reads as a `config set`. -/
structure SetRun where
  arguments : List Text
  options : Options
  key : Text
  value : Text
  reads : Request.ofArguments arguments = .ok (.run ⟨options, .configSet key value⟩)

namespace SetRun

/-- Any value can be given under any key behind `--`, whatever they begin with. -/
def ofValue (key value : Text) : SetRun where
  arguments := ["config".toList, "set".toList, "--".toList, key, value]
  options := {}
  key := key
  value := value
  reads := rfl

/-- Whether what a run is to set cannot be set. -/
def IsRefused (r : SetRun) : Prop := Config.Refuses r.key r.value

/-- The files after some runs, one after the other. -/
def filesAfter (env : Environment) (files : FileTree) (rs : List SetRun) : FileTree :=
  rs.foldl (fun files r => (run env files r.arguments).2) files

/-- A configuration with the values set that some runs are to set and that `Config.set` accepts. -/
def configAfter (c : Config) (rs : List SetRun) : Config :=
  rs.foldl (fun c r => (c.set r.key r.value).toOption.getD c) c

/-- What a run does where `c` is the configuration that counts. -/
structure Effect (env : Environment) (files : FileTree) (c : Config) (r : SetRun) : Prop where
  /-- A value that cannot be set is an error, and nothing is written. -/
  refused (h : r.IsRefused) :
    (run env files r.arguments).1.exit = 5 ∧ (run env files r.arguments).2 = files
  /-- A value that can be set is set, and the other one stays. -/
  accepted (h : ¬r.IsRefused) :
    (run env files r.arguments).1.exit = 0 ∧
      ∃ c', c.set r.key r.value = .ok c' ∧
        Config.load env (run env files r.arguments).2 = .ok c' ∧
        (r.key ≠ "base_url".toList → c'.baseUrl = c.baseUrl) ∧
        (r.key ≠ "output.color".toList → c'.color = c.color)

variable {env : Environment} {files : FileTree} {path : Text} {c : Config}

/-- `run` sets what `Config.set` accepts, and ends with its error otherwise. -/
private theorem run_eq (hpath : env.configPath = .ok path) (hkept : Config.Kept files path c)
    (r : SetRun) :
    (∀ e, c.set r.key r.value = .error e →
      run env files r.arguments = (⟨5, [], (CommandError.config e).report r.options.json⟩, files)) ∧
    ∀ c', c.set r.key r.value = .ok c' → ∃ files', Config.Kept files' path c' ∧
      run env files r.arguments =
        (⟨0, Report.configSet r.options path r.key r.value, []⟩, files') := by
  have hload := hkept.load_eq hpath
  constructor
  · -- The error comes before anything is written.
    intro e hset
    have hperform : Action.perform (execute env ⟨r.options, .configSet r.key r.value⟩) ⟨files, []⟩ =
        (.error (.config e), ⟨files, []⟩) := Action.setConfig_of_not_set hload hset r.options
    rw [run, r.reads]
    exact runInvocation_of_error hperform
  · intro c' hset
    -- The value is in order, so it is saved, and that succeeds.
    obtain ⟨files', hsave, hkept'⟩ := Config.exists_saveTo hkept.writable c'
    refine ⟨files', hkept', ?_⟩
    have hperform : Action.perform (execute env ⟨r.options, .configSet r.key r.value⟩) ⟨files, []⟩ =
        (.ok (), ⟨files', Report.configSet r.options path r.key r.value⟩) := by
      refine (Action.setConfig_of_set (p := ⟨files, []⟩) hload hpath hset r.options).trans ?_
      rw [hsave]
      rfl
    rw [run, r.reads]
    exact runInvocation_of_ok hperform

/-- After a run a configuration is `Kept`: the one with its value set, or the same. -/
private theorem kept_run (hpath : env.configPath = .ok path) (hkept : Config.Kept files path c)
    (r : SetRun) :
    Config.Kept (run env files r.arguments).2 path ((c.set r.key r.value).toOption.getD c) := by
  obtain ⟨herror, hok⟩ := run_eq hpath hkept r
  cases hset : c.set r.key r.value with
  | error e =>
    rw [herror e hset]
    exact hkept
  | ok c' =>
    obtain ⟨files', hkept', hrun⟩ := hok c' hset
    rw [hrun]
    exact hkept'

/-- After some runs the configuration that is `Kept` is `configAfter` them. -/
private theorem kept_filesAfter (hpath : env.configPath = .ok path)
    (hkept : Config.Kept files path c)
    (rs : List SetRun) : Config.Kept (filesAfter env files rs) path (configAfter c rs) := by
  induction rs generalizing files c with
  | nil => exact hkept
  | cons r rs ih =>
    -- What the first run leaves is what the others start from, files and configuration alike.
    exact ih (kept_run hpath hkept r)

/-- Each run has its `Effect` where a configuration is `Kept`. -/
private theorem effect_run (hpath : env.configPath = .ok path) (hkept : Config.Kept files path c)
    (r : SetRun) : r.Effect env files c := by
  obtain ⟨herror, hok⟩ := run_eq hpath hkept r
  rcases Config.set_cases r.key r.value with ⟨hrefused, hset⟩ | ⟨haccepted, hset⟩
  · obtain ⟨e, he⟩ := hset c
    refine ⟨fun _ => ?_, fun h => absurd hrefused h⟩
    rw [herror e he]
    exact ⟨rfl, rfl⟩
  · obtain ⟨c', hc', hurl, hcolor, -⟩ := hset c
    obtain ⟨files', hkept', hrun⟩ := hok c' hc'
    refine ⟨fun h => absurd h haccepted, fun _ => ?_⟩
    rw [hrun]
    exact ⟨rfl, c', hc', hkept'.load_eq hpath, hurl, hcolor⟩

/-! ### The base URL that was set last -/

/-- The base URL of `configAfter` stays as long as none is set. -/
private theorem baseUrl_configAfter {rs : List SetRun}
    (h : ∀ r ∈ rs, r.key = "base_url".toList → r.IsRefused) (c : Config) :
    (configAfter c rs).baseUrl = c.baseUrl := by
  induction rs generalizing c with
  | nil => rfl
  | cons r rs ih =>
    refine (ih (fun s hs => h s (List.mem_cons_of_mem r hs)) _).trans ?_
    -- What the first run sets is not the base URL, or it is refused.
    show ((c.set r.key r.value).toOption.getD c).baseUrl = c.baseUrl
    rcases Config.set_cases r.key r.value with ⟨-, hset⟩ | ⟨haccepted, hset⟩
    · obtain ⟨e, he⟩ := hset c
      rw [he]
      rfl
    · obtain ⟨c', hc', hurl, -⟩ := hset c
      rw [hc']
      exact hurl fun hkey => haccepted (h r List.mem_cons_self hkey)

/-- The base URL of `configAfter` is the last one that was accepted, less the slashes at its end. -/
private theorem baseUrl_configAfter_append {r : SetRun} (hkey : r.key = "base_url".toList)
    (haccepted : ¬r.IsRefused) {later : List SetRun}
    (hlater : ∀ s ∈ later, s.key = "base_url".toList → s.IsRefused) (c : Config)
    (before : List SetRun) :
    (configAfter c (before ++ r :: later)).baseUrl = Text.trimEnd (· = '/') r.value := by
  have hsplit : configAfter c (before ++ r :: later) = configAfter
      (((configAfter c before).set r.key r.value).toOption.getD (configAfter c before)) later := by
    simp only [configAfter, List.foldl_append, List.foldl_cons]
  rw [hsplit, baseUrl_configAfter hlater]
  rcases Config.set_cases r.key r.value with ⟨hrefused, -⟩ | ⟨-, hset⟩
  · exact absurd hrefused haccepted
  · obtain ⟨c', hc', -, -, hurl⟩ := hset (configAfter c before)
    rw [hc']
    exact hurl hkey

/-- `run` makes a link with the base URL of the configuration as if `--base-url` had given it. -/
private theorem run_link_baseUrl (hload : Config.load env files = .ok c) (henv : env.baseUrl = none)
    {arguments params : List Text} {o : Options} {html : Bool}
    (hread : Request.ofArguments arguments = .ok (.run ⟨o, .link html params⟩))
    (ho : o.baseUrl = none) :
    run env files (("--base-url=".toList ++ c.baseUrl) :: arguments) = run env files arguments := by
  have hfront := Request.ofArguments_cons_baseUrl hread ho c.baseUrl
  -- Options go before the configuration, and say the same here.
  have hurl : effectiveBaseUrl { o with baseUrl := some c.baseUrl } env c =
      effectiveBaseUrl o env c := by
    simp only [effectiveBaseUrl, ho, henv]
    rfl
  simp only [run, hfront, hread, runInvocation, execute, Action.perform_loadConfig_bind, hload,
    hurl]
  rfl

end SetRun

/-- Where there is no configuration yet and one can be written, runs of `config set` come to the
    default with each value set that can be, in turn (`SetRun.configAfter`).  A run whose value
    cannot be set writes nothing, and the others change no more than their value.  The base URL that
    was set last is that of links, as if it were given without the slashes at its end. -/
theorem Config.set_runs_compose {env : Environment} {files : FileTree} {path : Text}
    (hpath : env.configPath = .ok path) (habsent : files.pathExists path = false)
    (hwritable : files.Writable path) :
    (∀ rs : List SetRun,
      load env (SetRun.filesAfter env files rs) = .ok (SetRun.configAfter default rs) ∧
      ∀ r : SetRun,
        r.Effect env (SetRun.filesAfter env files rs) (SetRun.configAfter default rs)) ∧
    ∀ (before : List SetRun) (r : SetRun) (later : List SetRun),
      r.key = "base_url".toList → ¬r.IsRefused →
      (∀ s ∈ later, s.key = "base_url".toList → s.IsRefused) → env.baseUrl = none →
      ∀ (arguments params : List Text) (o : Options) (html : Bool),
        Request.ofArguments arguments = .ok (.run ⟨o, .link html params⟩) → o.baseUrl = none →
        let files := SetRun.filesAfter env files (before ++ r :: later)
        run env files arguments = run env files
          (("--base-url=".toList ++ Text.trimEnd (· = '/') r.value) :: arguments) := by
  have hkept (rs : List SetRun) := SetRun.kept_filesAfter hpath (kept_default habsent hwritable) rs
  refine ⟨fun rs => ⟨(hkept rs).load_eq hpath, SetRun.effect_run hpath (hkept rs)⟩, ?_⟩
  intro before r later hkey haccepted hlater henv arguments params o html hread ho
  have hload := (hkept (before ++ r :: later)).load_eq hpath
  rw [← SetRun.baseUrl_configAfter_append hkey haccepted hlater default before]
  exact (SetRun.run_link_baseUrl hload henv hread ho).symm

/-- A base URL with slashes at its end is set in a new directory, then a key that there is not, and
    then a link is made. -/
theorem Config.set_runs_compose_slashes :
    let env : Environment :=
      { configFile := some "a/b".toList, configHome := none, home := none, baseUrl := none,
        noColor := false }
    let first := SetRun.ofValue "base_url".toList "-x//".toList
    let second := SetRun.ofValue "color".toList "on".toList
    env.configPath = .ok "a/b".toList ∧ FileTree.empty.pathExists "a/b".toList = false ∧
      FileTree.empty.Writable "a/b".toList ∧ ¬first.IsRefused ∧
      load env (SetRun.filesAfter env .empty [first, second]) = .ok ⟨"-x".toList, none⟩ ∧
      run env (SetRun.filesAfter env .empty [first, second]) ["link".toList] =
        run env (SetRun.filesAfter env .empty [first, second])
          ["--base-url=-x".toList, "link".toList] := by
  intro env first second
  have hpath : env.configPath = .ok "a/b".toList := rfl
  have habsent : FileTree.empty.pathExists "a/b".toList = false := by decide
  have hwritable : FileTree.empty.Writable "a/b".toList := ⟨_, _, rfl, rfl⟩
  obtain ⟨hload, hlink⟩ := set_runs_compose hpath habsent hwritable
  have haccepted : ¬first.IsRefused := by
    intro h
    cases h with
    | unknownKey h => exact h rfl
    | blankBaseUrl h => exact absurd (h '-' (by decide)) (by decide)
  have hother : ∀ s ∈ [second], s.key = "base_url".toList → s.IsRefused := by
    rintro s (_ | ⟨_, ⟨⟩⟩) h
    exact absurd h (by decide)
  refine ⟨hpath, habsent, hwritable, haccepted, (hload [first, second]).1, ?_⟩
  exact hlink [] first [second] rfl haccepted hother rfl ["link".toList] [] {} false rfl rfl

end Facets
