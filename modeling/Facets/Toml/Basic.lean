import Facets.Keyed
import Facets.Text.Basic

/-!
# TOML documents

A TOML document is a sequence of statements, each of which opens a table or gives a key its value.
`Toml.ofStatements?` builds the tree of a document from them, and fails where a statement
defines what is defined already:

* a key has one value;
* a table is opened by one header at most, but it may be implied by longer headers before;
* dotted keys extend only tables that stand in the path of dotted keys, and such a table is not
  opened by a header;
* a table written in braces is complete.

A path through an array of tables goes on in its last table.
-/

namespace Facets

/-- How a table came to be. -/
inductive TableKind where
  /-- It is the document, or was opened by a header of its own. -/
  | opened
  /-- It stands in the path of a header. -/
  | implied
  /-- It stands in the path of a dotted key. -/
  | dotted
  /-- It was written in braces. -/
  | inline
deriving DecidableEq

/-- Whether the path of a statement may go through a table: `via` is the kind of the tables that
    the path itself brings about. -/
def TableKind.isOpenTo (via : TableKind) : TableKind → Bool
  | .opened => via != .dotted
  | .implied | .dotted => true
  | .inline => false

/-- A value of a TOML document.  Floating-point numbers and times are kept as they are written. -/
inductive Toml where
  | string (t : Text)
  | integer (n : Int)
  | boolean (b : Bool)
  | float (literal : Text)
  | time (literal : Text)
  | array (items : List Toml)
  | table (kind : TableKind) (entries : List (Text × Toml))
  | tables (rows : List (List (Text × Toml)))

namespace Toml

/-- The keys of a table with their values. -/
abbrev Entries := List (Text × Toml)

/-- A statement of a document; its key is the last one of a path. -/
inductive Statement where
  /-- The header of a table. -/
  | table (path : List Text) (key : Text)
  /-- The header of a new table in an array of tables. -/
  | row (path : List Text) (key : Text)
  /-- A key with its value. -/
  | pair (path : List Text) (key : Text) (value : Toml)

/-- Some entries changed by `change` in the table at the end of a path.  The path brings about the
    tables it misses, as tables of the kind `via`, and `change` learns the kind of its table. -/
def update? (via : TableKind) (change : TableKind → Entries → Option Entries) :
    List Text → TableKind → Entries → Option Entries
  | [], kind, es => change kind es
  | k :: path, _, es =>
    let store (v : Toml) : Entries := Keyed.put Prod.fst (k, v) es
    match es.lookup k with
    | none => (update? via change path via []).map fun sub => store (.table via sub)
    | some (.table kind sub) =>
      if via.isOpenTo kind then
        (update? via change path kind sub).map fun sub => store (.table kind sub)
      else none
    | some (.tables rows) =>
      -- The path goes on in the table that was opened last.
      match rows.getLast? with
      | some last =>
        (update? via change path .opened last).map fun last =>
          store (.tables (rows.dropLast ++ [last]))
      | none => none
    | some _ => none

/-- Some entries with one more key, which must be new. -/
def define? (key : Text) (value : Toml) (es : Entries) : Option Entries :=
  if (es.lookup key).isSome then none else some (es ++ [(key, value)])

/-- The entries of a table after a key at the end of a path of dotted keys is given its value. -/
def assign? (path : List Text) (key : Text) (value : Toml) (kind : TableKind) (es : Entries) :
    Option Entries :=
  let change (kind : TableKind) (es : Entries) : Option Entries :=
    if path ≠ [] ∧ kind ≠ .dotted then none else define? key value es
  update? .dotted change path kind es

/-- The entries of a table after one of its keys is opened as a table. -/
def openTable? (key : Text) (es : Entries) : Option Entries :=
  match es.lookup key with
  | none => some (es ++ [(key, .table .opened [])])
  | some (.table .implied sub) => some (Keyed.put Prod.fst (key, .table .opened sub) es)
  | some _ => none

/-- The entries of a table after one of its keys is given a new table in an array of tables. -/
def openRow? (key : Text) (es : Entries) : Option Entries :=
  match es.lookup key with
  | none => some (es ++ [(key, .tables [[]])])
  | some (.tables rows) => some (Keyed.put Prod.fst (key, .tables (rows ++ [[]])) es)
  | some _ => none

/-- A document while its statements are read. -/
structure Draft where
  entries : Entries := []
  /-- The path of the table that was opened last. -/
  current : List Text := []

/-- A draft after one more statement. -/
def Draft.add? (d : Draft) : Statement → Option Draft
  | .table path key =>
    (update? .implied (fun _ => openTable? key) path .opened d.entries).map fun es =>
      ⟨es, path ++ [key]⟩
  | .row path key =>
    (update? .implied (fun _ => openRow? key) path .opened d.entries).map fun es =>
      ⟨es, path ++ [key]⟩
  | .pair path key value =>
    (update? .implied (assign? path key value) d.current .opened d.entries).map fun es =>
      ⟨es, d.current⟩

/-- The entries of a document. -/
def ofStatements? (ss : List Statement) : Option Entries :=
  (ss.foldlM Draft.add? {}).map Draft.entries

/-- The entries of a table in braces, from its keys with their paths and values. -/
def ofPairs? (ps : List (List Text × Text × Toml)) : Option Entries :=
  ps.foldlM (fun es p => assign? p.1 p.2.1 p.2.2 .inline es) []

end Toml

end Facets
