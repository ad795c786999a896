import Facets.Config.Basic
import Facets.Toml.Reader

/-!
# The configuration file

A configuration is stored in TOML: a version, a base URL, and a table `output` with the colour
setting.  `Config.stored` writes all of it.  In a file that is read all of it may be missing, and
other keys are passed over; but what is there must be of the right type.  The version is read and
not kept, since there is one version so far.
-/

namespace Facets.Config

/-- A configuration as it is stored. -/
def stored (c : Config) : Text :=
  "version = ".toList ++ Text.decimal version ++ "\nbase_url = ".toList ++ Toml.quote c.baseUrl ++
    "\n\n[output]\n".toList ++
    match c.color with
    | some b => "color = ".toList ++ Json.boolText b ++ "\n".toList
    | none => []

/-- Whether a value is a version, an integer that 32 bits hold. -/
def isVersion : Toml → Bool
  | .integer n => 0 ≤ n && n < 0x100000000
  | _ => false

/-- The text of a value that is a string. -/
def textOf? : Toml → Option Text
  | .string t => some t
  | _ => none

/-- The truth value of a value that is one. -/
def boolOf? : Toml → Option Bool
  | .boolean b => some b
  | _ => none

/-- The colour setting in a value of `output`, which is a table or a list of what the table holds,
    in its order.  A time counts as a table too, one that holds something else. -/
def colorOf? : Toml → Option (Option Bool)
  | .table _ es =>
    match es.lookup "color".toList with
    | some v => (boolOf? v).map some
    | none => some none
  | .array (v :: _) => (boolOf? v).map some
  | .time _ => some none
  | _ => none

/-- The configuration that the entries of a document make. -/
def ofEntries? (es : Toml.Entries) : Option Config := do
  if (es.lookup "version".toList).any (!isVersion ·) then none
  let baseUrl ← match es.lookup "base_url".toList with
    | some v => textOf? v
    | none => some defaultBaseUrl
  let color ← match es.lookup "output".toList with
    | some v => colorOf? v
    | none => some none
  return ⟨baseUrl, color⟩

/-- The configuration that is stored as a text. -/
def ofStored? (t : Text) : Option Config := (Toml.read? t).bind ofEntries?

end Facets.Config
