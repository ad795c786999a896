import Facets.FileTree
import Facets.Json.Writer
import Facets.Text.Blank
import Facets.Text.LowerCase

/-!
# Configuration

A configuration has the base URL of links and says whether output has colours.  `Config.set`
changes one value, given as text under the name of its key.
-/

namespace Facets

/-- The configuration of the command line. -/
structure Config where
  /-- The URL that links begin with. -/
  baseUrl : Text
  /-- Whether output has colours, if that is laid down. -/
  color : Option Bool
deriving DecidableEq

/-- What can go wrong with a configuration. -/
inductive ConfigError where
  /-- There is no place for the configuration file. -/
  | noDirectory
  /-- The file cannot be read. -/
  | unreadable (e : FileError)
  /-- The file holds no configuration, for a reason that the reader of TOML gives. -/
  | malformed (reason : Text)
  /-- The directory of the file cannot be made. -/
  | noParent (e : FileError)
  /-- The file cannot be written. -/
  | unwritable (e : FileError)
  /-- The base URL is blank. -/
  | blankBaseUrl
  /-- A text is no truth value. -/
  | notBoolean (t : Text)
  /-- There is no such key. -/
  | unknownKey (key : Text)
deriving DecidableEq

/-- The text of an error. -/
def ConfigError.message : ConfigError → Text
  | .noDirectory => "Could not determine config directory".toList
  | .unreadable e => "Failed to read config: ".toList ++ e.message
  | .malformed reason => "Failed to parse config: ".toList ++ reason
  | .noParent e => "Failed to create config directory: ".toList ++ e.message
  | .unwritable e => "Failed to write config: ".toList ++ e.message
  | .blankBaseUrl => "base_url cannot be empty".toList
  | .notBoolean t =>
    "Invalid boolean value '".toList ++ t ++
      "'. Use true/false, yes/no, 1/0, or on/off".toList
  | .unknownKey key =>
    "Unknown config key '".toList ++ key ++ "'. Valid keys: base_url, output.color".toList

namespace Config

/-- The version of the file format. -/
def version : Nat := 1

/-- The base URL where none is given. -/
def defaultBaseUrl : Text := "/wiki/Special:BrowseData".toList

/-- The configuration where there is no file. -/
def default : Config := ⟨defaultBaseUrl, none⟩

instance : Inhabited Config := ⟨default⟩

/-- The words for true. -/
def trueWords : List Text := ["true".toList, "yes".toList, "1".toList, "on".toList]

/-- The words for false. -/
def falseWords : List Text := ["false".toList, "no".toList, "0".toList, "off".toList]

/-- The truth value that a text writes, in letters of either case. -/
def readBool (t : Text) : Except ConfigError Bool :=
  if Text.lowerCase t ∈ trueWords then .ok true
  else if Text.lowerCase t ∈ falseWords then .ok false
  else .error (.notBoolean t)

/-- A configuration with the value of a key changed.  A base URL must not be blank, and is kept
    without the slashes at its end. -/
def set (c : Config) (key value : Text) : Except ConfigError Config :=
  if key = "base_url".toList then
    -- The check is on the value as it is given, with the slashes that are dropped.
    if Text.trim Text.isWhiteSpace value = [] then .error .blankBaseUrl
    else .ok { c with baseUrl := Text.trimEnd (· = '/') value }
  else if key = "output.color".toList then do return { c with color := some (← readBool value) }
  else .error (.unknownKey key)

/-- A configuration as a JSON object. -/
def toJson (c : Config) : Json :=
  .fields [("base_url".toList, .text c.baseUrl),
    ("output".toList, .fields (match c.color with
      | some b => [("color".toList, .bool b)]
      | none => [])),
    ("version".toList, .number (Text.decimal version))]

end Config

end Facets
