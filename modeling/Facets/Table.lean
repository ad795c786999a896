import Facets.Info

/-!
# Tables for a terminal

`Catalog.table` shows a catalog with one filter on a line, `Info.table` adds the other settings
of a page.  With colours, parts of the text stand between two control sequences; without, the
text is the same but for these.  Names are padded before they are coloured.
-/

namespace Facets

/-- How a part of the text stands out. -/
inductive Style where
  | dimmed
  | bold
  | cyan
  | green
deriving DecidableEq

/-- A control sequence of a terminal that selects a way of writing. -/
def controlSequence (parameter : Text) : Text := '\x1b' :: '[' :: parameter ++ ['m']

namespace Style

/-- The sequence before the text. -/
def start : Style → Text
  | .dimmed => controlSequence ['2']
  | .bold => controlSequence ['1']
  | .cyan => controlSequence ['3', '6']
  | .green => controlSequence ['3', '2']

/-- The sequence after the text. -/
def stop : Style → Text
  | .dimmed | .bold => controlSequence ['0']
  | .cyan | .green => controlSequence ['3', '9']

/-- A text in a style, where output has colours. -/
def paint (s : Style) (colors : Bool) (t : Text) : Text :=
  if colors then s.start ++ t ++ s.stop else t

end Style

/-- The width of the column of names. -/
def nameWidth : Nat := 20

/-- A line of a table. -/
def line (t : Text) : Text := t ++ ['\n']

/-- A setting in a table. -/
def Setting.cell (colors : Bool) (s : Setting) : Text :=
  Style.cyan.paint colors s.key.name ++ " = ".toList ++ Text.join ", ".toList s.value.toList

/-- The settings of a filter in a table. -/
def Filter.cells (colors : Bool) (f : Filter) : Text :=
  if f.isEmpty then "(none)".toList
  else Text.join ", ".toList (f.settings.map (Setting.cell colors))

/-- A filter as a line of a table. -/
def Filter.row (colors : Bool) (f : Filter) : Text :=
  line (Style.bold.paint colors (Text.padRight nameWidth f.name) ++ ' ' :: f.cells colors)

/-- The heading of a table. -/
def tableHeading (colors : Bool) : Text :=
  line (Style.dimmed.paint colors
    (Text.padRight nameWidth "Filter".toList ++ ' ' :: "Settings".toList))

/-- A catalog as a table. -/
def Catalog.table (colors : Bool) (c : Catalog) : Text :=
  if c.isEmpty then line "No filters defined.".toList
  else tableHeading colors ++ c.filters.flatMap (Filter.row colors)

/-- A labelled line for a value that is there. -/
def labelled (colors : Bool) (label : String) (value : Option Text) : Text :=
  match value with
  | some t => line (Style.green.paint colors label.toList ++ ": ".toList ++ t)
  | none => []

/-- The browse settings of a page as a table. -/
def Info.table (colors : Bool) (i : Info) : Text :=
  i.filters.table colors ++ labelled colors "Title" i.title ++
    labelled colors "Display parameters" i.displayParameters ++
    labelled colors "Printouts" i.printouts ++ labelled colors "Export format" i.exportFormat

end Facets
