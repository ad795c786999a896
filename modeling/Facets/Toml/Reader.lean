import Facets.Toml.Plain
import Facets.Toml.Quoted

/-!
# Reading TOML

`Toml.read?` gives the entries of a TOML document.  The text is first read as a list of statements,
one on a line, and the statements then say what the document holds.

Each reader takes the text from where its part begins and gives the part with what follows it.
A document is not read where it goes deeper than `depthLimit`, in a path or in containers.
-/

namespace Facets.Toml

/-! ## Between tokens -/

/-- A text from its first character on that is no space. -/
def skipGap (t : Text) : Text := t.dropWhile isGap

/-- A text from after the comment at its start, if it has one. -/
def skipComment : Text → Text
  | '#' :: cs => cs.dropWhile isPrintable
  | t => t

theorem length_skipPrintable_le (t : Text) : (t.dropWhile isPrintable).length ≤ t.length :=
  (List.dropWhile_sublist isPrintable).length_le

/-- A text from its next token on, past spaces, comments and line ends. -/
def skipLines (t : Text) : Text :=
  match t with
  | [] => []
  | c :: cs =>
    if c = '#' then
      have := length_skipPrintable_le cs
      skipLines (cs.dropWhile isPrintable)
    else if isGap c then skipLines cs
    else
      match h : readLineEnd? (c :: cs) with
      | some rest =>
        have : rest.length < cs.length + 1 := length_of_readLineEnd? h
        skipLines rest
      | none => c :: cs
termination_by t.length

/-- What follows a line of which only spaces and a comment are left. -/
def endLine? (t : Text) : Option Text :=
  match skipComment (skipGap t) with
  | [] => some []
  | rest => readLineEnd? rest

/-- The greatest number of keys in a path, and of containers of which each stands in the one
    before. -/
def depthLimit : Nat := 79

/-! ## Keys -/

/-- Whether a character may stand in a key without quotation marks. -/
def isBare (c : Char) : Bool := c.isAlphanum || c == '_' || c == '-'

/-- One key of a path. -/
def readKey? (t : Text) : Option (Text × Text) :=
  match readShortQuoted? t with
  | some r => some r
  | none =>
    let key := t.takeWhile isBare
    if key = [] then none else some (key, t.dropWhile isBare)

/-- At most `limit` keys with dots between them: the keys before the last one, and the last one. -/
def readKeys? (limit : Nat) (t : Text) : Option ((List Text × Text) × Text) :=
  match limit with
  | 0 => none
  | limit + 1 => do
    let (key, t) ← readKey? (skipGap t)
    match skipGap t with
    | '.' :: t => (readKeys? limit t).map fun r => ((key :: r.1.1, r.1.2), r.2)
    | t => some (([], key), t)

/-- A path of keys: those before the last one, and the last one. -/
def readPath? (t : Text) : Option ((List Text × Text) × Text) := readKeys? depthLimit t

/-! ## Values -/

mutual

/-- A value, with at most `depth` containers in each other, read in at most `fuel` steps. -/
def readValue? (fuel depth : Nat) (t : Text) : Option (Toml × Text) :=
  match fuel with
  | 0 => none
  | fuel + 1 =>
    match t with
    | '"' :: _ => (readQuoted? t).map fun r => (.string r.1, r.2)
    | '\'' :: _ => (readQuoted? t).map fun r => (.string r.1, r.2)
    | '[' :: cs =>
      if depth = 0 then none
      else (readItems? fuel (depth - 1) (skipLines cs)).map fun r => (.array r.1, r.2)
    | '{' :: cs =>
      if depth = 0 then none
      else match skipGap cs with
        | '}' :: rest => some (.table .inline [], rest)
        | cs => do
          let (ps, rest) ← readPairs? fuel (depth - 1) cs
          let es ← ofPairs? ps
          return (.table .inline es, rest)
    | t => readPlain? t

/-- The items of an array, the last of which may have a comma after it. -/
def readItems? (fuel depth : Nat) (t : Text) : Option (List Toml × Text) :=
  match fuel with
  | 0 => none
  | fuel + 1 =>
    match t with
    | ']' :: rest => some ([], rest)
    | t => do
      let (v, t) ← readValue? fuel depth t
      match skipLines t with
      | ',' :: t => (readItems? fuel depth (skipLines t)).map fun r => (v :: r.1, r.2)
      | ']' :: rest => some ([v], rest)
      | _ => none

/-- The keys of a table in braces with their paths and values. -/
def readPairs? (fuel depth : Nat) (t : Text) : Option (List (List Text × Text × Toml) × Text) :=
  match fuel with
  | 0 => none
  | fuel + 1 => do
    let ((path, key), t) ← readPath? t
    match t with
    | '=' :: t => do
      let (v, t) ← readValue? fuel depth (skipGap t)
      match skipGap t with
      | ',' :: t => (readPairs? fuel depth t).map fun r => ((path, key, v) :: r.1, r.2)
      | '}' :: rest => some ([(path, key, v)], rest)
      | _ => none
    | _ => none

end

/-! ## Statements -/

/-- The header of a table from after its opening brackets, which `closing` matches. -/
def readHeader? (closing : Text) (t : Text) : Option ((List Text × Text) × Text) := do
  let (path, t) ← readPath? t
  let t ← Text.dropPrefix? closing t
  return (path, t)

/-- A statement without the end of its line. -/
def readStatement? : Text → Option (Statement × Text)
  | '[' :: '[' :: cs =>
    (readHeader? "]]".toList cs).map fun r => (.row r.1.1 r.1.2, r.2)
  | '[' :: cs =>
    (readHeader? "]".toList cs).map fun r => (.table r.1.1 r.1.2, r.2)
  | t => do
    let ((path, key), t) ← readPath? t
    let t ← Text.dropPrefix? ['='] t
    let (v, t) ← readValue? (2 * t.length + 1) depthLimit (skipGap t)
    return (.pair path key v, t)

/-- The statements of a document, of which `fuel` bounds the number. -/
def readStatements? (fuel : Nat) (t : Text) : Option (List Statement) :=
  match fuel with
  | 0 => none
  | fuel + 1 =>
    match skipLines t with
    | [] => some []
    | t => do
      let (s, t) ← readStatement? t
      let t ← endLine? t
      return s :: (← readStatements? fuel t)

/-- A text without a byte order mark at its start. -/
def dropByteOrderMark : Text → Text
  | '\ufeff' :: cs => cs
  | t => t

/-- The entries of a document. -/
def read? (t : Text) : Option Entries := do
  let t := dropByteOrderMark t
  let ss ← readStatements? (t.length + 1) t
  ofStatements? ss

end Facets.Toml
