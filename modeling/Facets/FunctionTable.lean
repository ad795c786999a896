import Facets.Info
import Facets.Link

/-!
# Functions that a wiki calls by name

A wiki function takes arguments and gives browse settings or a link; only the first kind can fail.
A `FunctionTable` holds functions under names, in increasing order of the names, and `call`
hands the function of a name its arguments.
-/

namespace Facets

/-- A function that a wiki calls. -/
inductive WikiFunction where
  | info (run : List Param → Except FilterError Info)
  | link (run : List Param → Link)

/-- What a wiki function gives. -/
inductive FunctionOutput where
  | info (i : Info)
  | link (l : Link)
deriving DecidableEq

namespace WikiFunction

/-- What a function gives for some arguments. -/
def call (f : WikiFunction) (params : List Param) : Except FilterError FunctionOutput :=
  match f with
  | .info run => .info <$> run params
  | .link run => .ok (.link (run params))

/-- The functions of this library with their names. -/
def standard : List (Text × WikiFunction) :=
  [("drilldowninfo".toList, .info Info.build), ("drilldownlink".toList, .link Link.build)]

end WikiFunction

/-- An output as a JSON object whose first member tells its kind. -/
def FunctionOutput.toJson : FunctionOutput → Json
  | .info i => .fields (("function".toList, .text "info".toList) :: i.jsonFields)
  | .link l => .fields (("function".toList, .text "link".toList) :: l.jsonFields)

/-- Functions under names, in increasing order of the names. -/
structure FunctionTable where
  entries : List (Text × WikiFunction)

namespace FunctionTable

/-- The table without functions. -/
def empty : FunctionTable := ⟨[]⟩

/-- A table with a function under a name, in place of an earlier one. -/
def register (t : FunctionTable) (name : Text) (f : WikiFunction) : FunctionTable :=
  ⟨Keyed.putSorted Prod.fst (name, f) t.entries⟩

/-- A table with the functions of this library. -/
def registerStandard (t : FunctionTable) : FunctionTable :=
  WikiFunction.standard.foldl (fun t e => t.register e.1 e.2) t

/-- The table of the functions of this library. -/
def standard : FunctionTable := empty.registerStandard

/-- The function of a name. -/
def get? (t : FunctionTable) (name : Text) : Option WikiFunction :=
  (Keyed.get? Prod.fst name t.entries).map Prod.snd

/-- The names of a table, in increasing order. -/
def names (t : FunctionTable) : List Text := t.entries.map Prod.fst

/-- What the function of a name gives for some arguments, if there is one. -/
def call (t : FunctionTable) (name : Text) (arguments : List Text) :
    Option (Except FilterError FunctionOutput) :=
  (t.get? name).map fun f => f.call (arguments.map Param.parse)

/-- `get?` finds the function that `register` put under a name last. -/
theorem get?_register (t : FunctionTable) (name n : Text) (f : WikiFunction) :
    (t.register name f).get? n = if name = n then some f else t.get? n := by
  simp only [register, get?, Keyed.get?_putSorted]
  split <;> rfl

end FunctionTable

end Facets
