import Facets.Filter.Specification
import Facets.Filter.Stored
import Facets.Param

/-!
# Browse settings of a category

`Info.build` collects what the arguments of a wiki function say about the browse page of a
category: its filters, a title, and how results are shown.  Of arguments with one name the last
one counts, an empty one leaves its field unset, and others are passed over.  The filters are read
at the end, so that only the last specification can be at fault.

`Info.pageProperties` gives the properties under which a wiki stores all this for the page, and
`Info.writePageProperties` gives them where the filters can be written.
-/

namespace Facets

/-- What a named argument means. -/
inductive InfoParam where
  | filters
  | title
  | displayParameters
  | printouts
  | exportFormat
deriving DecidableEq

/-- The names of arguments with their meanings. -/
def InfoParam.names : List (Text × InfoParam) :=
  [("filters".toList, .filters), ("title".toList, .title),
    ("display parameters".toList, .displayParameters), ("printouts".toList, .printouts),
    ("export format".toList, .exportFormat)]

/-- The meaning of a name. -/
def InfoParam.ofName? (name : Text) : Option InfoParam := names.lookup name

/-- The properties of a page. -/
inductive PageProperty where
  | filters
  | title
  | printouts
  | displayParameters
  | exportFormat
deriving DecidableEq

/-- The name under which a property is stored. -/
def PageProperty.name : PageProperty → Text
  | .filters => "SDFilters".toList
  | .title => "SDTitle".toList
  | .printouts => "SDPrintouts".toList
  | .displayParameters => "SDDisplayParams".toList
  | .exportFormat => "SDExportFormat".toList

/-- The browse settings of a category. -/
structure Info where
  filters : Catalog := .empty
  title : Option Text := none
  displayParameters : Option Text := none
  printouts : Option Text := none
  exportFormat : Option Text := none
deriving DecidableEq, Inhabited

namespace Info

/-- A text that is there only if it is not empty. -/
def nonEmpty? (t : Text) : Option Text := if t = [] then none else some t

/-- Settings while the arguments are read, the filters as they are written. -/
structure Draft where
  specification : Text := []
  title : Option Text := none
  displayParameters : Option Text := none
  printouts : Option Text := none
  exportFormat : Option Text := none

/-- A draft after one more argument. -/
def Draft.add (d : Draft) (p : Param) : Draft :=
  match p.name.bind InfoParam.ofName? with
  | some .filters => { d with specification := p.value }
  | some .title => { d with title := nonEmpty? p.value }
  | some .displayParameters => { d with displayParameters := nonEmpty? p.value }
  | some .printouts => { d with printouts := nonEmpty? p.value }
  | some .exportFormat => { d with exportFormat := nonEmpty? p.value }
  | none => d

/-- The settings that a draft has come to. -/
def Draft.info (d : Draft) : Except FilterError Info := do
  let filters ← Catalog.parse d.specification
  return ⟨filters, d.title, d.displayParameters, d.printouts, d.exportFormat⟩

/-- The settings that some arguments describe. -/
def build (params : List Param) : Except FilterError Info := (params.foldl Draft.add {}).info

/-- A property that is stored only if it has a value. -/
def optionalProperty (p : PageProperty) (value : Option Text) : List (PageProperty × Text) :=
  match value with
  | some t => [(p, t)]
  | none => []

/-- The properties that a page stores besides its filters. -/
def optionalProperties (i : Info) : List (PageProperty × Text) :=
  optionalProperty .title i.title ++ optionalProperty .printouts i.printouts ++
    optionalProperty .displayParameters i.displayParameters ++
    optionalProperty .exportFormat i.exportFormat

/-- The properties that a page stores, the filters first and always. -/
def pageProperties (i : Info) : List (PageProperty × Text) :=
  (.filters, i.filters.stored) :: i.optionalProperties

/-- The properties that a page stores, if its filters can be written. -/
def writePageProperties (i : Info) : Except Json.WriteError (List (PageProperty × Text)) := do
  return (.filters, ← i.filters.toJson.writeCompact) :: i.optionalProperties

/-- The members of the settings as a JSON object. -/
def jsonFields (i : Info) : List (Text × Json) :=
  [("filters".toList, i.filters.toJson)] ++ Json.optionalField "title" i.title ++
    Json.optionalField "display_parameters" i.displayParameters ++
    Json.optionalField "printouts" i.printouts ++ Json.optionalField "export_format" i.exportFormat

/-- The settings as a JSON object. -/
def toJson (i : Info) : Json := .fields i.jsonFields

end Info

end Facets
