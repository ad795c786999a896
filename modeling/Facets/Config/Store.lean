import Facets.Config.Stored
import Facets.Environment

/-!
# Where the configuration is kept

The environment says where the configuration file is: a path of its own, or else a directory for
the configuration of all programs, or else the home directory, which the account has if no
variable names it.  `Config.load` reads the file,
and a missing one means the default; `Config.saveTo` writes it, with the directories above it.
-/

namespace Facets

/-- A path below another one. -/
def joinPath (directory name : Text) : Text :=
  if directory = [] ∨ directory.getLast? = some '/' then directory ++ name
  else directory ++ '/' :: name

namespace Environment

/-- The home directory: that of the variable, or else that of the account.  An empty one is none. -/
def homeDirectory? (env : Environment) : Option Text :=
  (env.home.filter (· ≠ [])).or (env.accountHome.filter (· ≠ []))

/-- The directory of the configuration file where it has no path of its own. -/
def configDirectory (env : Environment) : Except ConfigError Text :=
  match env.configHome with
  | some home => .ok (joinPath home "drill".toList)
  | none =>
    match env.homeDirectory? with
    | some home => .ok (joinPath (joinPath home ".config".toList) "drill".toList)
    | none => .error .noDirectory

/-- The path of the configuration file. -/
def configPath (env : Environment) : Except ConfigError Text :=
  match env.configFile with
  | some path => .ok path
  | none => do return joinPath (← env.configDirectory) "config.toml".toList

end Environment

namespace Config

/-- The configuration at a path. -/
def loadFrom (wording : Wording) (files : FileTree) (path : Text) : Except ConfigError Config :=
  if files.pathExists path then
    match files.read path with
    | .error e => .error (.unreadable e)
    | .ok content =>
      match ofStored? content with
      | some c => .ok c
      | none => .error (.malformed (wording.malformed content))
  else .ok default

/-- The configuration that counts in an environment. -/
def load (env : Environment) (files : FileTree) : Except ConfigError Config := do
  loadFrom env.wording files (← env.configPath)

/-- The files with a configuration at a path, and the error if it cannot be put there.  The
    directories that were made for it stay even then. -/
def saveTo (files : FileTree) (path : Text) (c : Config) : FileTree × Option ConfigError :=
  match files.makeParent path with
  | (files, some e) => (files, some (.noParent e))
  | (files, none) =>
    match files.write path c.stored with
    | .error e => (files, some (.unwritable e))
    | .ok files => (files, none)

end Config

end Facets
