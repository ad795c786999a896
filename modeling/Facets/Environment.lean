import Facets.Command.Arguments

/-!
# What a run depends on

Besides its arguments and the files, a run depends on the variables of its environment and on the
account that it runs for.  Some texts are not its own: how a command is called, what is wrong with
a command line or with a document in TOML, and how a shell completes commands is said by the
libraries that read and write these.  Nothing is assumed of such a `Wording`.
-/

namespace Facets

/-- The texts that libraries say for the program. -/
structure Wording where
  /-- Help on a command. -/
  help : Place → Text := fun _ => []
  /-- What is wrong with a command line that cannot be read. -/
  usageError : UsageError → Text := fun _ => []
  /-- The script that completes the names of the commands in a shell. -/
  completions : Shell → Text := fun _ => []
  /-- What is wrong with a text that holds no configuration. -/
  malformed : Text → Text := fun _ => []
deriving Inhabited

/-- What the program learns from its environment. -/
structure Environment where
  /-- The path of the configuration file. -/
  configFile : Option Text
  /-- The directory for the configuration of all programs. -/
  configHome : Option Text
  /-- The home directory. -/
  home : Option Text
  /-- The base URL of links. -/
  baseUrl : Option Text
  /-- Whether output is to have no colours. -/
  noColor : Bool
  /-- The home directory of the account, as the system has it on record. -/
  accountHome : Option Text := none
  wording : Wording := {}
deriving Inhabited

end Facets
