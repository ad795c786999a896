import Facets.Text.Basic

/-!
# Blank characters

Three classes of characters are dropped from the ends of texts:

* `isBlank`       the six characters dropped around argument names and values,
* `isNamePadding` these and the comma, dropped around filter names, since the comma that
  ends one filter stands before the name of the next,
* `isWhiteSpace`  the Unicode property `White_Space`, used for configuration values.

The first class is fixed and is not Unicode white space: NUL and the vertical tab are in it,
the no-break space is not.
-/

namespace Facets.Text

/-- The characters dropped around names and values. -/
def isBlank (c : Char) : Bool :=
  c == ' ' || c == '\t' || c == '\n' || c == '\r' || c == '\x00' || c == '\x0b'

/-- The characters dropped around the name of a filter. -/
def isNamePadding (c : Char) : Bool := c == ',' || isBlank c

/-- The Unicode property `White_Space`. -/
def isWhiteSpace (c : Char) : Bool :=
  let n := c.toNat
  (0x09 ≤ n && n ≤ 0x0d) || n == 0x20 || n == 0x85 || n == 0xa0 || n == 0x1680 ||
    (0x2000 ≤ n && n ≤ 0x200a) || n == 0x2028 || n == 0x2029 || n == 0x202f || n == 0x205f ||
    n == 0x3000

/-- A name or value without blanks around it. -/
def trimBlank (t : Text) : Text := trim isBlank t

/-- A filter name without blanks and separating commas around it. -/
def trimName (t : Text) : Text := trim isNamePadding t

/-- Every blank is `isNamePadding`: it may also stand around a filter name. -/
theorem isNamePadding_of_isBlank {c : Char} (h : isBlank c = true) : isNamePadding c = true := by
  simp [isNamePadding, h]

end Facets.Text
