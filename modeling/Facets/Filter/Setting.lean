import Facets.Keyed
import Facets.Text.Basic
import Facets.Text.EditDistance
import Facets.Text.LowerCase

/-!
# Settings of a filter

A setting is one of four keys with a value.  The value is one text, or a list of texts; `requires`
is the key whose value is a list when it is read from a specification, but no key is bound to
either kind of value.

A key that is none of the four is the one error a specification can have.  Its message names
the key, and `suggestion?` finds the key that was likely meant: the first of those with the least
edit distance from the lower case of what was written, if that distance is three at most.
-/

namespace Facets

/-- The keys of settings. -/
inductive SettingKey where
  | property
  | category
  | requires
  | group
deriving DecidableEq, Inhabited

namespace SettingKey

/-- All keys, in the order in which suggestions prefer them. -/
def all : List SettingKey := [.property, .category, .requires, .group]

/-- The name of a key. -/
def name : SettingKey → Text
  | .property => "property".toList
  | .category => "category".toList
  | .requires => "requires".toList
  | .group => "group".toList

/-- The key of a name. -/
def ofName? (t : Text) : Option SettingKey := all.find? fun k => k.name = t

/-- Whether a specification gives the key a list. -/
def holdsList (k : SettingKey) : Bool := k = .requires

/-- The position of a key among all keys. -/
def index : SettingKey → Nat
  | .property => 0
  | .category => 1
  | .requires => 2
  | .group => 3

end SettingKey

/-- What is wrong with a specification. -/
inductive FilterError where
  /-- A setting has a key that is none of the four. -/
  | unknownSetting (key : Text)
deriving DecidableEq

namespace FilterError

/-- The key that is at fault. -/
def key : FilterError → Text
  | .unknownSetting key => key

/-- The text of an error. -/
def message : FilterError → Text
  | .unknownSetting key => "unknown setting, \"".toList ++ key ++ "\"".toList

/-- The greatest distance at which a key is suggested. -/
def maxDistance : Nat := 3

/-- The first of some keys with the least distance, and that distance. -/
def nearest? (distance : SettingKey → Nat) : List SettingKey → Option (SettingKey × Nat)
  | [] => none
  | k :: ks =>
    match nearest? distance ks with
    | some (k', d) => if d < distance k then some (k', d) else some (k, distance k)
    | none => some (k, distance k)

/-- The key that was likely meant. -/
def suggestion? (e : FilterError) : Option SettingKey :=
  let written := Text.lowerCase e.key
  -- Nothing is near to an empty key, short as the keys are.
  if written = [] then none
  else do
    let (k, d) ← nearest? (fun k => Text.editDistance written k.name) SettingKey.all
    if d ≤ maxDistance then some k else none

end FilterError

/-- The key of a name, or the error that there is none. -/
def SettingKey.parse (t : Text) : Except FilterError SettingKey :=
  match SettingKey.ofName? t with
  | some k => .ok k
  | none => .error (.unknownSetting t)

/-- The value of a setting. -/
inductive SettingValue where
  | scalar (t : Text)
  | list (ts : List Text)
deriving DecidableEq, Inhabited

namespace SettingValue

/-- The text of a value that is no list. -/
def asScalar? : SettingValue → Option Text
  | .scalar t => some t
  | .list _ => none

/-- The texts of a value; a scalar is one. -/
def toList : SettingValue → List Text
  | .scalar t => [t]
  | .list ts => ts

/-- A value as a specification writes it. -/
def display : SettingValue → Text
  | .scalar t => t
  | .list ts => Text.join [','] ts

end SettingValue

/-- A key with its value. -/
structure Setting where
  key : SettingKey
  value : SettingValue
deriving DecidableEq

/-- A setting as a specification writes it. -/
def Setting.display (s : Setting) : Text := s.key.name ++ '=' :: s.value.display

end Facets
