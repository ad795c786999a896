import Facets.Config.Basic
import Facets.Filter.Setting
import Facets.Table

/-!
# Errors of commands

A command fails by a filter specification, by the configuration, by the output that it writes, or
by a document that cannot be written.  `CommandError.exit` is the exit code of each kind, and
`CommandError.report` is what is printed for an error, as text or as JSON.
-/

namespace Facets

/-- Why a command fails. -/
inductive CommandError where
  | filter (e : FilterError)
  | config (e : ConfigError)
  | file (e : FileError)
  | json (e : Json.WriteError)
deriving DecidableEq

namespace CommandError

/-- The text of an error. -/
def message : CommandError → Text
  | .filter e => "filter error: ".toList ++ e.message
  | .config e => "configuration error: ".toList ++ e.message
  | .file e => "I/O error: ".toList ++ e.message
  | .json e => "serialization error: ".toList ++ e.message

/-- The word for the kind of an error. -/
def code : CommandError → Text
  | .filter _ => "PARSE_ERROR".toList
  | .config _ => "CONFIG_ERROR".toList
  | .file _ => "IO_ERROR".toList
  | .json _ => "JSON_ERROR".toList

/-- The exit code of an error. -/
def exit : CommandError → Nat
  | .filter _ => 1
  | .config _ => 5
  | .file _ => 3
  | .json _ => 1

/-- What was likely meant. -/
def suggestion? : CommandError → Option Text
  | .filter e => e.suggestion?.map SettingKey.name
  | .config _ | .file _ | .json _ => none

/-- An error as a JSON object. -/
def toJson (e : CommandError) : Json :=
  .fields [("error".toList, .fields ([("code".toList, .text e.code),
    ("message".toList, .text e.message)] ++ Json.optionalField "suggestion" e.suggestion?))]

/-- An error on a line of text. -/
def errorLine (e : CommandError) : Text := line ("Error: ".toList ++ e.message)

/-- What is printed for an error. -/
def report (json : Bool) (e : CommandError) : Text :=
  if json then
    match e.toJson.writePretty with
    | .ok t => line t
    | .error _ => e.errorLine
  else e.errorLine ++
    match e.suggestion? with
    | some key => line ("Did you mean '".toList ++ key ++ "'?".toList)
    | none => []

end CommandError

end Facets
