import Facets.Filter.Catalog
import Facets.Filter.Segment
import Facets.Text.Blank

/-!
# Filter specifications

`Catalog.parse` reads a specification such as `Color(property=Has color, requires=Size,Shape)`
into a catalog.

The settings of a filter are divided at every comma.  A token with `=` sets a key.  After a token
that sets `requires`, tokens without `=` are further requirements, up to the next token that sets
a key; elsewhere they have no effect, and empty ones never have.  A filter without a name is
dropped, but its settings are read for errors.
-/

namespace Facets

/-- What stands between two commas of the settings. -/
inductive Token where
  /-- A key and its value. -/
  | keyed (key value : Text)
  /-- A text without `=`. -/
  | bare (t : Text)
deriving DecidableEq

/-- The token that a text writes. -/
def Token.ofText (t : Text) : Token :=
  match t.cut? '=' with
  | some (key, value) => .keyed (Text.trimBlank key) (Text.trimBlank value)
  | none => .bare (Text.trimBlank t)

/-- The tokens of some settings. -/
def Token.ofSettings (t : Text) : List Token := (t.pieces ',').map ofText

/-- The distinct items of a list as a value writes it, without the empty ones. -/
def listItems (value : Text) : List Text :=
  distinct (((value.pieces ',').map Text.trimBlank).filter (· ≠ []))

/-- The value that a text gives to a key. -/
def SettingKey.readValue (k : SettingKey) (t : Text) : SettingValue :=
  if k.holdsList then .list (listItems t) else .scalar t

namespace Filter

/-- A filter while its tokens are read. -/
structure Draft where
  filter : Filter
  /-- Whether the last key set was `requires`. -/
  inRequires : Bool

/-- A draft after one more token. -/
def Draft.add (d : Draft) : Token → Except FilterError Draft
  | .keyed key value => do
    let k ← SettingKey.parse key
    return ⟨d.filter.set k (k.readValue value), k = .requires⟩
  | .bare t =>
    if t ≠ [] ∧ d.inRequires then .ok { d with filter := d.filter.pushRequirement t } else .ok d

/-- The filter of a name with the settings that a text writes. -/
def parse (name settings : Text) : Except FilterError Filter :=
  Draft.filter <$> (Token.ofSettings settings).foldlM Draft.add ⟨new name, false⟩

end Filter

namespace Catalog

/-- A catalog with the filter of one more segment. -/
def addSegment (c : Catalog) (g : Segment) : Except FilterError Catalog := do
  let name := Text.trimName g.name
  -- The settings are read even if the filter is dropped, so that their errors are found.
  let f ← Filter.parse name g.settings
  return if name = [] then c else c.insert f

/-- The catalog that a specification writes. -/
def parse (t : Text) : Except FilterError Catalog := (Segment.ofText t).foldlM addSegment empty

end Catalog

end Facets
