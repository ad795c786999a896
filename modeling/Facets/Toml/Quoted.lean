import Facets.Text.Digits

/-!
# Strings in TOML

A string is written in one of four ways: between quotation marks or apostrophes, one of them or
three.  Quotation marks admit escapes, apostrophes admit none; three of either admit line ends.
`readQuoted?` reads a string, and `quote` writes one in the way that needs the fewest escapes.

Between three marks, a line end right after the opening ones does not belong to the string, up
to two marks may stand before the closing ones, and a line end always counts as one line feed.
-/

namespace Facets.Toml

/-- Whether a character may stand in a string as it is, line ends apart. -/
def isPrintable (c : Char) : Bool := c == '\t' || (0x20 ≤ c.toNat && c.toNat != 0x7f)

/-- The spaces between the tokens of a line. -/
def isGap (c : Char) : Bool := c == ' ' || c == '\t'

/-! ## Reading -/

/-- The character that some hexadecimal digits number, with what follows them. -/
def readCodePoint? (digits : Nat) (t : Text) : Option (Char × Text) :=
  if t.length < digits then none
  else ((Text.numeral? 16 (t.take digits)).filter fun n => n.isValidChar).map fun n =>
    (Char.ofNat n, t.drop digits)

/-- What the escape after a backslash stands for, with what follows it. -/
def readEscape? : Text → Option (Char × Text)
  | 'b' :: cs => some ('\x08', cs)
  | 't' :: cs => some ('\t', cs)
  | 'n' :: cs => some ('\n', cs)
  | 'f' :: cs => some ('\x0c', cs)
  | 'r' :: cs => some ('\r', cs)
  | '"' :: cs => some ('"', cs)
  | '\\' :: cs => some ('\\', cs)
  | 'u' :: cs => readCodePoint? 4 cs
  | 'U' :: cs => readCodePoint? 8 cs
  | _ => none

theorem length_of_readEscape? {t rest : Text} {c : Char} (h : readEscape? t = some (c, rest)) :
    rest.length < t.length := by
  have hex {n : Nat} {t rest : Text} {c : Char} (h : readCodePoint? n t = some (c, rest)) :
      rest.length ≤ t.length := by
    simp only [readCodePoint?] at h
    split at h
    · cases h
    · simp only [Option.map_eq_some_iff, Prod.mk.injEq] at h
      obtain ⟨_, _, _, rfl⟩ := h
      simp
  unfold readEscape? at h
  split at h
  case h_8 => exact Nat.lt_succ_of_le (hex h)
  case h_9 => exact Nat.lt_succ_of_le (hex h)
  case h_10 => cases h
  all_goals
    cases h
    simp

/-- The line end at the start of a text, with what follows it. -/
def readLineEnd? : Text → Option Text
  | '\n' :: cs => some cs
  | '\r' :: '\n' :: cs => some cs
  | _ => none

theorem length_of_readLineEnd? {t rest : Text} (h : readLineEnd? t = some rest) :
    rest.length < t.length := by
  unfold readLineEnd? at h
  split at h
  · cases h
    simp
  · cases h
    exact Nat.lt_succ_of_lt (Nat.lt_succ_self _)
  · cases h

/-- A text without the spaces and line ends at its start. -/
def skipBlankLines : Text → Text
  | ' ' :: cs => skipBlankLines cs
  | '\t' :: cs => skipBlankLines cs
  | '\n' :: cs => skipBlankLines cs
  | '\r' :: '\n' :: cs => skipBlankLines cs
  | t => t

theorem length_skipBlankLines_le (t : Text) : (skipBlankLines t).length ≤ t.length := by
  fun_induction skipBlankLines t with
  | case1 cs ih => exact Nat.le_succ_of_le ih
  | case2 cs ih => exact Nat.le_succ_of_le ih
  | case3 cs ih => exact Nat.le_succ_of_le ih
  | case4 cs ih => exact Nat.le_succ_of_le (Nat.le_succ_of_le ih)
  | case5 => exact Nat.le_refl _

/-- What follows the line end after a backslash, and the blank rest of lines after it. -/
def readJoinedLine? (t : Text) : Option Text :=
  (readLineEnd? (t.dropWhile isGap)).map skipBlankLines

theorem length_of_readJoinedLine? {t rest : Text} (h : readJoinedLine? t = some rest) :
    rest.length < t.length := by
  simp only [readJoinedLine?, Option.map_eq_some_iff] at h
  obtain ⟨r, hr, rfl⟩ := h
  have h1 := length_of_readLineEnd? hr
  have h2 := (List.dropWhile_sublist isGap (l := t)).length_le
  have h3 := length_skipBlankLines_le r
  omega

/-- A string from after its quotation mark. -/
def readBasic? (t : Text) : Option (Text × Text) :=
  match t with
  | [] => none
  | c :: cs =>
    if c = '"' then some ([], cs)
    else if c = '\\' then
      match h : readEscape? cs with
      | none => none
      | some (x, rest) =>
        have := length_of_readEscape? h
        (readBasic? rest).map fun r => (x :: r.1, r.2)
    else if isPrintable c then (readBasic? cs).map fun r => (c :: r.1, r.2)
    else none
termination_by t.length

/-- A string from after its apostrophe. -/
def readLiteral? : Text → Option (Text × Text)
  | [] => none
  | c :: cs =>
    if c = '\'' then some ([], cs)
    else if isPrintable c then (readLiteral? cs).map fun r => (c :: r.1, r.2)
    else none

/-- Up to two more marks after three of them: they stand before the closing ones. -/
def readClosing (mark : Char) : Text → Text × Text
  | c :: d :: cs =>
    if c = mark then if d = mark then ([mark, mark], cs) else ([mark], d :: cs)
    else ([], c :: d :: cs)
  | [c] => if c = mark then ([mark], []) else ([], [c])
  | [] => ([], [])

/-- A string from after its three marks, which are quotation marks if `escapes` are admitted, and
    the line end after them. -/
def readLines? (mark : Char) (escapes : Bool) (t : Text) : Option (Text × Text) :=
  match t with
  | [] => none
  | c :: cs =>
    if c = mark then
      match cs with
      | d :: e :: rest =>
        -- Three marks close the string, and fewer belong to it.
        if d = mark ∧ e = mark then some (readClosing mark rest)
        else (readLines? mark escapes (d :: e :: rest)).map fun r => (c :: r.1, r.2)
      | _ => none
    else if c = '\\' ∧ escapes = true then
      -- A backslash at the end of a line joins the lines, and is an escape elsewhere.
      match hj : readJoinedLine? cs with
      | some rest =>
        have := length_of_readJoinedLine? hj
        readLines? mark escapes rest
      | none =>
        match he : readEscape? cs with
        | none => none
        | some (x, rest) =>
          have := length_of_readEscape? he
          (readLines? mark escapes rest).map fun r => (x :: r.1, r.2)
    else
      match hl : readLineEnd? (c :: cs) with
      | some rest =>
        have : rest.length < cs.length + 1 := length_of_readLineEnd? hl
        (readLines? mark escapes rest).map fun r => ('\n' :: r.1, r.2)
      | none =>
        if isPrintable c then (readLines? mark escapes cs).map fun r => (c :: r.1, r.2)
        else none
termination_by t.length

/-- A text without a line end at its start. -/
def dropLineEnd (t : Text) : Text := (readLineEnd? t).getD t

/-- A string written between single marks, as keys may be. -/
def readShortQuoted? : Text → Option (Text × Text)
  | '"' :: cs => readBasic? cs
  | '\'' :: cs => readLiteral? cs
  | _ => none

/-- A string written in any way. -/
def readQuoted? : Text → Option (Text × Text)
  | '"' :: '"' :: '"' :: cs => readLines? '"' true (dropLineEnd cs)
  | '\'' :: '\'' :: '\'' :: cs => readLines? '\'' false (dropLineEnd cs)
  | t => readShortQuoted? t

/-! ## Writing -/

/-- Whether a character has to be escaped: a control character, tabs and line feeds apart. -/
def isControl (c : Char) : Bool :=
  (c.toNat < 0x20 && c != '\t' && c != '\n') || c.toNat == 0x7f

/-- The length of the longest run of a character. -/
def longestRun (c : Char) (t : Text) : Nat :=
  let (longest, current) := t.foldl (fun (longest, current) x =>
    if x = c then (longest, current + 1) else (max longest current, 0)) (0, 0)
  max longest current

/-- The four ways of writing a string. -/
inductive QuoteStyle where
  | basic
  | literal
  | basicLines
  | literalLines
deriving DecidableEq

/-- The way in which a text is written: the first that needs no escapes, or else quotation marks,
    three of them if the text has several lines. -/
def QuoteStyle.of (t : Text) : QuoteStyle :=
  let control := t.any isControl
  let backslash := t.contains '\\'
  let lines := t.contains '\n'
  let doubles := longestRun '"' t
  let singles := longestRun '\'' t
  if !control && !backslash && doubles == 0 && !lines then .basic
  else if !control && singles == 0 && !lines then .literal
  else if !control && !backslash && doubles ≤ 2 then .basicLines
  else if !control && singles ≤ 2 then .literalLines
  else if lines then .basicLines
  else .basic

/-- A character between quotation marks, quotation marks and line feeds apart. -/
def escapeChar (c : Char) : Text :=
  if c = '\x08' then ['\\', 'b']
  else if c = '\t' then ['\\', 't']
  else if c = '\x0c' then ['\\', 'f']
  else if c = '\r' then ['\\', 'r']
  else if c = '\\' then ['\\', '\\']
  else if isControl c then
    ['\\', 'u', '0', '0', Text.upperHex (c.toNat / 16), Text.upperHex (c.toNat % 16)]
  else [c]

/-- A text between single quotation marks. -/
def escapeBasic (t : Text) : Text :=
  t.flatMap fun c =>
    if c = '"' then ['\\', '"'] else if c = '\n' then ['\\', 'n'] else escapeChar c

/-- A text between triple quotation marks, after `run` of them that are not escaped: every third
    one of a run is. -/
def escapeLines (run : Nat) : Text → Text
  | [] => []
  | c :: cs =>
    if c = '"' then
      if run = 2 then '\\' :: '"' :: escapeLines 0 cs else '"' :: escapeLines (run + 1) cs
    else if c = '\n' then '\n' :: escapeLines 0 cs
    else escapeChar c ++ escapeLines 0 cs

/-- The line feed after three opening marks, which texts of several lines get. -/
def openingLineEnd (t : Text) : Text := if t.contains '\n' then ['\n'] else []

/-- A text as a string. -/
def quote (t : Text) : Text :=
  match QuoteStyle.of t with
  | .basic => ['"'] ++ escapeBasic t ++ ['"']
  | .literal => ['\''] ++ t ++ ['\'']
  | .basicLines => "\"\"\"".toList ++ openingLineEnd t ++ escapeLines 0 t ++ "\"\"\"".toList
  | .literalLines => "'''".toList ++ openingLineEnd t ++ t ++ "'''".toList

end Facets.Toml
