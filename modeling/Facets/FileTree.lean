import Facets.Keyed
import Facets.Text.Basic

/-!
# Trees of files

A `FileTree` is a file, or a directory with the trees of what it holds.  What a program sees of a
file system is the tree of its working directory, in which two names lead out of it: `/` to the
root, and `..` to the directory above.

Paths are texts and are followed name by name, as a POSIX system does.  An operation that fails
gives the error of such a system and changes nothing, but `makeDirectories` keeps the directories
that it made before.
-/

namespace Facets

/-- Why a file or directory cannot be used. -/
inductive FileError where
  | notFound
  | alreadyExists
  | notDirectory
  | isDirectory
  | nameTooLong
deriving DecidableEq

/-- The text of an error, with its number. -/
def FileError.message : FileError → Text
  | .notFound => "No such file or directory (os error 2)".toList
  | .alreadyExists => "File exists (os error 17)".toList
  | .notDirectory => "Not a directory (os error 20)".toList
  | .isDirectory => "Is a directory (os error 21)".toList
  | .nameTooLong => "File name too long (os error 36)".toList

/-- A file, or a directory with what it holds under each name, in the order of the names. -/
inductive FileTree where
  | file (content : Text)
  | directory (entries : List (Text × FileTree))
deriving Inhabited

/-- A location: the names on the shortest way to it from the working directory, or from the root if
    the first one is `/`.  The way begins with a `..` for each directory that it leads up. -/
abbrev Location := List Text

namespace FileTree

/-- The name of the root. -/
def root : Text := ['/']

/-- The name that every directory has in itself. -/
def here : Text := ['.']

/-- The name of the directory that holds a directory. -/
def up : Text := ['.', '.']

/-- A directory without anything in it. -/
def empty : FileTree := .directory []

/-- The content of a file. -/
def content? : FileTree → Option Text
  | .file content => some content
  | .directory _ => none

/-- What a directory holds. -/
def entries : FileTree → List (Text × FileTree)
  | .file _ => []
  | .directory es => es

/-- The tree at a location. -/
def find? (t : FileTree) : Location → Option FileTree
  | [] => some t
  | name :: l =>
    match Keyed.get? Prod.fst name t.entries with
    | some e => e.2.find? l
    | none => none

/-- A tree with another one at a location, and with directories on the way to it. -/
def insert (t new : FileTree) : Location → FileTree
  | [] => new
  | name :: l =>
    let old := (Keyed.get? Prod.fst name t.entries).elim empty Prod.snd
    .directory (Keyed.putSorted Prod.fst (name, old.insert new l) t.entries)

/-- `find?` finds what `insert` has put at a location. -/
theorem find?_insert (t new : FileTree) (l : Location) : (t.insert new l).find? l = some new := by
  induction l generalizing t with
  | nil => rfl
  | cons name l ih => simp [insert, find?, entries, Keyed.get?_putSorted, ih]

mutual

/-- What a tree holds, name by name, and each directory before what is in it: the locations, and
    the contents of files. -/
def listing : FileTree → List (Location × Option Text)
  | .file _ => []
  | .directory es => listingOf es

/-- What is held under some names and below. -/
def listingOf : List (Text × FileTree) → List (Location × Option Text)
  | [] => []
  | (name, t) :: es =>
    ([name], t.content?) :: (t.listing.map fun e => (name :: e.1, e.2)) ++ listingOf es

end

/-- The files of a tree with their contents. -/
def files (t : FileTree) : List (Location × Text) :=
  t.listing.filterMap fun e => e.2.map fun content => (e.1, content)

/-! ## Following paths -/

/-- The names in a path, of which the first is `/` if the path begins at the root. -/
def pathNames (path : Text) : List Text :=
  let names := (Text.pieces '/' path).filter (· ≠ [])
  if path.head? = some '/' then root :: names else names

/-- Whether a path ends in a slash: it can only be that of a directory then. -/
def endsInSlash (path : Text) : Bool := path.getLast? == some '/'

/-- The greatest length of a name in bytes. -/
def nameLimit : Nat := 255

/-- The greatest length of a path in bytes. -/
def pathLimit : Nat := 4095

/-- Whether a location is the root, the working directory or one above it: these are always
    there. -/
def isBase (l : Location) : Bool := l == [root] || l.all (· == up)

/-- Where a name leads to from a directory. -/
def step (l : Location) (name : Text) : Location :=
  if name = here then l
  else if name = up then if l = [root] then l else if isBase l then l ++ [up] else l.dropLast
  else l ++ [name]

/-- What is found at a location. -/
def lookup (t : FileTree) (l : Location) : Except FileError FileTree :=
  if l.getLast?.any fun name => nameLimit < Text.byteLength name then .error .nameTooLong
  else match t.find? l with
    | some e => .ok e
    | none => if isBase l then .ok empty else .error .notFound

/-- Where some names lead to; all but the last must lead to directories. -/
def follow (t : FileTree) (l : Location) : List Text → Except FileError Location
  | [] => .ok l
  | name :: names =>
    match t.lookup l with
    | .ok (.directory _) => t.follow (step l name) names
    | .ok (.file _) => .error .notDirectory
    | .error e => .error e

/-- Where a path leads to. -/
def locate (t : FileTree) (path : Text) : Except FileError Location :=
  if path = [] then .error .notFound
  else if pathLimit < Text.byteLength path then .error .nameTooLong
  else t.follow [] (pathNames path)

/-- What a path leads to. -/
def stat (t : FileTree) (path : Text) : Except FileError FileTree := do
  match ← t.lookup (← t.locate path) with
  | .directory es => return .directory es
  | .file content => if endsInSlash path then throw .notDirectory else return .file content

/-- Whether a path leads to anything. -/
def pathExists (t : FileTree) (path : Text) : Bool := (t.stat path).isOk

/-! ## Operations -/

/-- The content of the file at a path. -/
def read (t : FileTree) (path : Text) : Except FileError Text := do
  match ← t.stat path with
  | .file content => return content
  | .directory _ => throw .isDirectory

/-- A tree with a file at a path, in place of one that is there. -/
def write (t : FileTree) (path content : Text) : Except FileError FileTree := do
  let l ← t.locate path
  -- A name with a slash after it is never that of a file to be made, whatever it leads to.
  if endsInSlash path then throw .isDirectory
  match t.lookup l with
  | .ok (.directory _) => throw .isDirectory
  | .ok (.file _) | .error .notFound => return t.insert (.file content) l
  | .error e => throw e

/-- A tree with directories wherever some names lead from a location, and the error if that fails.
    The directories on the way are looked for first, and no file may stand among them.  Once one of
    them is `made`, each further one is made on its own, and a file is in its way. -/
def makeFrom (t : FileTree) (l : Location) (made : Bool) :
    List Text → FileTree × Option FileError
  | [] => (t, none)
  | name :: names =>
    let l := step l name
    match t.lookup l with
    | .ok (.directory _) => t.makeFrom l made names
    | .ok (.file _) => (t, some (if made ∨ names = [] then .alreadyExists else .notDirectory))
    | .error .notFound => (t.insert empty l).makeFrom l true names
    | .error e => (t, some e)

/-- A tree with directories wherever a path leads, and the error if that fails. -/
def makeDirectories (t : FileTree) (path : Text) : FileTree × Option FileError :=
  if pathLimit < Text.byteLength path then (t, some .nameTooLong)
  else t.makeFrom [] false (pathNames path)

/-- The names and gaps between slashes without those at the end that lead nowhere. -/
def trimPieces (ps : List Text) : List Text :=
  (ps.reverse.dropWhile fun p => p = [] ∨ p = here).reverse

/-- The path of the directory that is to hold the entry of a path, without its last name. -/
def parentPath (path : Text) : Text :=
  Text.join ['/'] (trimPieces (trimPieces (Text.pieces '/' path)).dropLast)

/-- A tree with the directory that is to hold the entry of a path, and the error if that fails. -/
def makeParent (t : FileTree) (path : Text) : FileTree × Option FileError :=
  t.makeDirectories (parentPath path)

end FileTree

end Facets
