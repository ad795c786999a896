import Facets.Command.Action
import Facets.Link

/-!
# Running a command

`run` gives what the program does for its arguments: the exit code, what it prints, and the files
afterwards.  It is a function of the arguments, the environment and the files.

Each command is an `Action`, step by step.  Whatever can be wrong with what it was given is found
before it prints or writes anything; documents in JSON are written after that, some of them after
the first lines have been printed or after the configuration has been saved.

The exit code is 0 for success, 2 for a command line that cannot be read, and else that of the
error, `CommandError.exit`.
-/

namespace Facets

/-- What a run ends with. -/
structure Outcome where
  exit : Nat
  stdout : Text
  stderr : Text
deriving DecidableEq

/-! ## Reports -/

namespace Report

/-- A catalog as a JSON object. -/
def catalogJson (c : Catalog) : Json :=
  .fields [("filters".toList, c.toJson), ("normalized".toList, .text c.display)]

/-- Some properties of a page as a JSON object, in increasing order of their names. -/
def pagePropertiesJson (properties : List (PageProperty × Text)) : Json :=
  .fields (properties.foldl
    (fun ms p => Keyed.putSorted Prod.fst (p.1.name, Json.text p.2) ms) [])

/-- The browse settings of a page as a JSON object. -/
def infoJson (i : Info) (properties : List (PageProperty × Text)) : Json :=
  .fields (i.jsonFields ++ [("page_properties".toList, pagePropertiesJson properties)])

/-- A link under a base URL as a JSON object. -/
def linkJson (l : Link) (base : Text) : Json :=
  .fields (l.jsonFields ++ [("query_string".toList, .text l.queryString),
    ("href".toList, .text (l.href base)), ("html".toList, .text (l.anchor base).html)])

/-- A configuration as a JSON object, with where it is kept and whether it is there. -/
def configJson (path : Text) (present : Bool) (c : Config) : Json :=
  .fields [("config".toList, c.toJson), ("exists".toList, .bool present),
    ("path".toList, .text path)]

/-- The place of a configuration as a JSON object. -/
def configPathJson (path : Text) (present : Bool) : Json :=
  .fields [("exists".toList, .bool present), ("path".toList, .text path)]

/-- A value of the configuration that has been changed, as a JSON object. -/
def configSetJson (path key value : Text) : Json :=
  .fields [("key".toList, .text key), ("path".toList, .text path),
    ("status".toList, .text "success".toList), ("value".toList, .text value)]

/-- A name with its value on a line. -/
def equation (name value : Text) : Text := line (name ++ " = ".toList ++ value)

/-- A property of a page on a line. -/
def pageProperty (p : PageProperty × Text) : Text := equation p.1.name p.2

/-- A truth value in a text. -/
def truth (b : Bool) : Text := Json.boolText b

/-- The heading of a configuration. -/
def configHeading (colors : Bool) : Text :=
  Style.bold.paint colors (Style.green.paint colors "Configuration".toList)

/-- A configuration as text, with where it is kept and whether it is there. -/
def configText (colors : Bool) (path : Text) (present : Bool) (c : Config) : Text :=
  line (configHeading colors) ++ line [] ++ line ("File: ".toList ++ path) ++
    line ("Exists: ".toList ++ truth present) ++ line [] ++ line "Settings:".toList ++
    line ("  base_url: ".toList ++ c.baseUrl) ++ line [] ++ line "[output]".toList ++
    match c.color with
    | some b => line ("  color: ".toList ++ truth b)
    | none => []

/-- What is printed without a command. -/
def hint : Text :=
  line "drill - drilldown parser-function tool".toList ++
    line "Use --help for usage information".toList

/-- The version of the program, under the names of a command. -/
def version (path : List Text) : Text := line (Text.join ['-'] path ++ " 0.1.0".toList)

end Report

/-! ## Commands -/

/-- Whether output has colours: neither the options, nor the environment, nor the configuration
    must be against it. -/
def usesColors (o : Options) (env : Environment) (c : Config) : Bool :=
  !o.noColor && !env.noColor && c.color != some false

/-- The base URL of links: that of the options, or the environment, or the configuration. -/
def effectiveBaseUrl (o : Options) (env : Environment) (c : Config) : Text :=
  (o.baseUrl.or env.baseUrl).getD c.baseUrl

namespace Action

/-- Prints a document on lines of its own. -/
def printJson (j : Json) : Action Unit := do print (line (← ofExcept .json j.writePretty))

/-- The configuration that counts. -/
def loadConfig (env : Environment) : Action Config := do
  ofExcept .config (← look (Config.load env))

/-- Saves a configuration. -/
def saveConfig (env : Environment) (c : Config) : Action Unit := do
  saveTo (← ofExcept .config env.configPath) c

/-- Says what the program is. -/
def showHint (o : Options) : Action Unit := unless o.quiet do print Report.hint

/-- Prints the script that completes the names of the commands in a shell. -/
def showCompletions (env : Environment) (shell : Shell) : Action Unit := do
  print (env.wording.completions shell)
  -- The output is not asked for errors, so there is none to report.
  ofExcept .file (.ok ())

/-- Changes a value of the configuration, and then says so. -/
def setConfig (env : Environment) (o : Options) (key value : Text) : Action Unit := do
  let c ← loadConfig env
  let path ← ofExcept .config env.configPath
  saveConfig env (← ofExcept .config (c.set key value))
  if o.json then printJson (Report.configSetJson path key value)
  else unless o.quiet do print (line ("Set ".toList ++ key ++ " = ".toList ++ value))

/-- Prints the configuration. -/
def showConfig (env : Environment) (o : Options) : Action Unit := do
  let c ← loadConfig env
  let path ← ofExcept .config env.configPath
  let present ← look (·.pathExists path)
  if o.json then printJson (Report.configJson path present c)
  else unless o.quiet do print (Report.configText (!o.noColor) path present c)

/-- Prints where the configuration is kept. -/
def showConfigPath (env : Environment) (o : Options) : Action Unit := do
  let path ← ofExcept .config env.configPath
  if o.json then printJson (Report.configPathJson path (← look (·.pathExists path)))
  else print (line path)

/-- Prints a catalog. -/
def showCatalog (o : Options) (colors : Bool) (c : Catalog) : Action Unit :=
  if o.json then printJson (Report.catalogJson c)
  else unless o.quiet do print (c.table colors)

/-- Prints the browse settings of a page, and the properties that it stores if that is asked for.
    These are written when the table has been printed. -/
def showInfo (o : Options) (colors : Bool) (i : Info) : Action Unit := do
  if o.json then printJson (Report.infoJson i (← ofExcept .json i.writePageProperties))
  else unless o.quiet do
    print (i.table colors)
    if o.verbose then
      print (line [])
      (← ofExcept .json i.writePageProperties).forM fun p => print (Report.pageProperty p)

/-- Prints a link. -/
def showLink (o : Options) (html : Bool) (base : Text) (l : Link) : Action Unit :=
  if o.json then printJson (Report.linkJson l base)
  else if html then print (line (l.anchor base).html)
  else print (line (l.href base))

end Action

open Facets.Action

/-- What a command does.  The commands that read specifications and arguments load the configuration
    first, so that a broken one is reported before a broken specification. -/
def execute (env : Environment) (i : Invocation) : Action Unit :=
  let o := i.options
  match i.command with
  | .hint => showHint o
  | .completions shell => showCompletions env shell
  | .configSet key value => setConfig env o key value
  | .configShow => showConfig env o
  | .configPath => showConfigPath env o
  | .filters specification => do
    let c ← loadConfig env
    showCatalog o (usesColors o env c) (← ofExcept .filter (Catalog.parse specification))
  | .info arguments => do
    let c ← loadConfig env
    let info ← ofExcept .filter (Info.build (arguments.map Param.parse))
    showInfo o (usesColors o env c) info
  | .link html arguments => do
    let c ← loadConfig env
    showLink o html (effectiveBaseUrl o env c) (Link.build (arguments.map Param.parse))

/-- What a command ends with, and the files after it.  What it had printed before it failed stays
    printed. -/
def runInvocation (env : Environment) (files : FileTree) (i : Invocation) : Outcome × FileTree :=
  match perform (execute env i) ⟨files, []⟩ with
  | (.ok (), p) => (⟨0, p.stdout, []⟩, p.files)
  | (.error e, p) => (⟨e.exit, p.stdout, e.report i.options.json⟩, p.files)

/-- What the program ends with for its arguments, and the files after it. -/
def run (env : Environment) (files : FileTree) (arguments : List Text) : Outcome × FileTree :=
  match Request.ofArguments arguments with
  | .ok (.run i) => runInvocation env files i
  | .ok (.version path) => (⟨0, Report.version path, []⟩, files)
  | .ok (.help p) => (⟨0, env.wording.help p, []⟩, files)
  | .error e => (⟨2, [], env.wording.usageError e⟩, files)

end Facets
