import Facets.Json.Basic
import Facets.Text.Digits

/-!
# Reading JSON

`Json.read?` reads a text that is one JSON document with blanks around it.  Nothing else is
accepted: no trailing text or comma, no comment, no byte order mark, no raw control character
in a string.  How deep a document may be nested is not limited.

Each reader takes the text from where its part begins and gives the part with what follows it.
-/

namespace Facets.Json

/-- The characters between the tokens of a document. -/
def isSpace (c : Char) : Bool := c == ' ' || c == '\t' || c == '\n' || c == '\r'

/-- A text from its first token on. -/
def skipSpace (t : Text) : Text := t.dropWhile isSpace

/-! ## Strings -/

/-- The number that four hexadecimal digits write. -/
def readUnit? : Text → Option (Nat × Text)
  | a :: b :: c :: d :: rest => (Text.numeral? 16 [a, b, c, d]).map fun n => (n, rest)
  | _ => none

theorem length_of_readUnit? {t rest : Text} {n : Nat} (h : readUnit? t = some (n, rest)) :
    rest.length + 4 = t.length := by
  match t with
  | [] | [_] | [_, _] | [_, _, _] => simp [readUnit?] at h
  | a :: b :: c :: d :: t =>
    simp only [readUnit?, Option.map_eq_some_iff, Prod.mk.injEq] at h
    obtain ⟨_, _, _, rfl⟩ := h
    simp

/-- Whether a unit is the first half of a surrogate pair. -/
def isLeadUnit (n : Nat) : Bool := 0xd800 ≤ n && n < 0xdc00

/-- Whether a unit is the second half of a surrogate pair. -/
def isTrailUnit (n : Nat) : Bool := 0xdc00 ≤ n && n < 0xe000

/-- The second half of a pair, where a text begins with the escape of one. -/
def readTrail? : Text → Option (Nat × Text)
  | '\\' :: 'u' :: cs => (readUnit? cs).filter (isTrailUnit ·.1)
  | _ => none

theorem length_of_readTrail? {t rest : Text} {n : Nat} (h : readTrail? t = some (n, rest)) :
    rest.length + 6 = t.length := by
  unfold readTrail? at h
  split at h
  · have := length_of_readUnit? (Option.eq_some_of_filter_eq_some h)
    simp only [List.length_cons]
    omega
  · cases h

/-- The character that `u` and four digits stand for, or none for half of a surrogate pair. -/
def readEscapedUnit? (t : Text) : Option (JsonString × Text) := do
  let (n, rest) ← readUnit? t
  if isLeadUnit n then
    -- The second half has to follow at once, as an escape too.
    match readTrail? rest with
    | some (m, rest) =>
      return (some [Char.ofNat (0x10000 + (n - 0xd800) * 0x400 + (m - 0xdc00))], rest)
    | none => return (none, rest)
  else if isTrailUnit n then return (none, rest)
  else return (some [Char.ofNat n], rest)

/-- What the escape after a backslash stands for. -/
def readEscape? : Text → Option (JsonString × Text)
  | '"' :: cs => some (some ['"'], cs)
  | '\\' :: cs => some (some ['\\'], cs)
  | '/' :: cs => some (some ['/'], cs)
  | 'b' :: cs => some (some ['\x08'], cs)
  | 'f' :: cs => some (some ['\x0c'], cs)
  | 'n' :: cs => some (some ['\n'], cs)
  | 'r' :: cs => some (some ['\r'], cs)
  | 't' :: cs => some (some ['\t'], cs)
  | 'u' :: cs => readEscapedUnit? cs
  | _ => none

theorem length_of_readEscapedUnit? {t rest : Text} {s : JsonString}
    (h : readEscapedUnit? t = some (s, rest)) : rest.length < t.length := by
  simp only [readEscapedUnit?, Option.bind_eq_bind, Option.bind_eq_some_iff] at h
  obtain ⟨⟨n, r⟩, hn, h⟩ := h
  have := length_of_readUnit? hn
  simp only at h
  split at h
  · split at h
    · rename_i hm
      have := length_of_readTrail? hm
      cases h
      omega
    · cases h
      omega
  · split at h
    · cases h
      omega
    · cases h
      omega

theorem length_of_readEscape? {t rest : Text} {s : JsonString}
    (h : readEscape? t = some (s, rest)) : rest.length < t.length := by
  unfold readEscape? at h
  split at h
  case h_9 =>
    have := length_of_readEscapedUnit? h
    simp only [List.length_cons]
    omega
  case h_10 => cases h
  all_goals
    cases h
    simp

/-- The content of a string from after its opening quotation mark, and what follows the closing
    one. -/
def readContent? : Text → Option (JsonString × Text)
  | [] => none
  | c :: cs =>
    if c = '"' then some (some [], cs)
    else if c = '\\' then
      match h : readEscape? cs with
      | none => none
      | some (part, rest) =>
        have := length_of_readEscape? h
        (readContent? rest).map fun r => (part.bind fun p => r.1.map (p ++ ·), r.2)
    else if c.toNat < 0x20 then none
    else (readContent? cs).map fun r => (r.1.map (c :: ·), r.2)
termination_by t => t.length

/-! ## Numbers -/

/-- The digits at the start of a text, of which there must be one. -/
def readDigits? (t : Text) : Option (Text × Text) :=
  let digits := t.takeWhile Char.isDigit
  if digits = [] then none else some (digits, t.dropWhile Char.isDigit)

/-- The integer part of a number: a zero, or digits that begin with another one. -/
def readInteger? (t : Text) : Option (Text × Text) :=
  -- A leading zero must be the whole integer part.
  (readDigits? t).filter fun r => r.1.head? != some '0' || r.1.length == 1

/-- The fraction of a number, if it has one. -/
def readFraction? : Text → Option (Text × Text)
  | '.' :: cs => (readDigits? cs).map fun r => ('.' :: r.1, r.2)
  | t => some ([], t)

/-- The sign of an exponent, if it has one. -/
def readSign : Text → Text × Text
  | '+' :: cs => (['+'], cs)
  | '-' :: cs => (['-'], cs)
  | t => ([], t)

/-- The exponent of a number, if it has one. -/
def readExponent? : Text → Option (Text × Text)
  | [] => some ([], [])
  | c :: cs =>
    if c = 'e' ∨ c = 'E' then
      let (sign, cs) := readSign cs
      (readDigits? cs).map fun r => (c :: sign ++ r.1, r.2)
    else some ([], c :: cs)

/-- A number without its sign. -/
def readUnsigned? (t : Text) : Option (Text × Text) := do
  let (integer, t) ← readInteger? t
  let (fraction, t) ← readFraction? t
  let (exponent, t) ← readExponent? t
  return (integer ++ fraction ++ exponent, t)

/-- A number as it is written. -/
def readNumber? : Text → Option (Text × Text)
  | '-' :: cs => (readUnsigned? cs).map fun r => ('-' :: r.1, r.2)
  | t => readUnsigned? t

/-! ## Documents -/

mutual

/-- A value, read in at most `fuel` steps into nested values. -/
def readValue? (fuel : Nat) (t : Text) : Option (Json × Text) :=
  match fuel with
  | 0 => none
  | fuel + 1 =>
    match skipSpace t with
    | 'n' :: 'u' :: 'l' :: 'l' :: rest => some (.null, rest)
    | 't' :: 'r' :: 'u' :: 'e' :: rest => some (.bool true, rest)
    | 'f' :: 'a' :: 'l' :: 's' :: 'e' :: rest => some (.bool false, rest)
    | '"' :: cs => (readContent? cs).map fun r => (.string r.1, r.2)
    | '[' :: cs =>
      match skipSpace cs with
      | ']' :: rest => some (.array [], rest)
      | cs => (readItems? fuel cs).map fun r => (.array r.1, r.2)
    | '{' :: cs =>
      match skipSpace cs with
      | '}' :: rest => some (.object [], rest)
      | cs => (readMembers? fuel cs).map fun r => (.object r.1, r.2)
    | t => (readNumber? t).map fun r => (.number r.1, r.2)

/-- The items of an array that is not empty, and what follows its closing bracket. -/
def readItems? (fuel : Nat) (t : Text) : Option (List Json × Text) :=
  match fuel with
  | 0 => none
  | fuel + 1 => do
    let (item, t) ← readValue? fuel t
    match skipSpace t with
    | ',' :: t => (readItems? fuel t).map fun r => (item :: r.1, r.2)
    | ']' :: t => some ([item], t)
    | _ => none

/-- The members of an object that is not empty, and what follows its closing brace. -/
def readMembers? (fuel : Nat) (t : Text) : Option (List (JsonString × Json) × Text) :=
  match fuel with
  | 0 => none
  | fuel + 1 =>
    match skipSpace t with
    | '"' :: t => do
      let (name, t) ← readContent? t
      match skipSpace t with
      | ':' :: t => do
        let (value, t) ← readValue? fuel t
        match skipSpace t with
        | ',' :: t => (readMembers? fuel t).map fun r => ((name, value) :: r.1, r.2)
        | '}' :: t => some ([(name, value)], t)
        | _ => none
      | _ => none
    | _ => none

end

/-- The document that a whole text writes.  Two steps are enough for each character. -/
def read? (t : Text) : Option Json :=
  match readValue? (2 * t.length + 1) t with
  | some (j, rest) => if skipSpace rest = [] then some j else none
  | none => none

end Facets.Json
