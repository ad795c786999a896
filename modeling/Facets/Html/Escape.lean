import Facets.Text.Basic

/-!
# Texts in HTML

`escapeText` writes a text where markup may stand, `escapeAttribute` writes one between double
quotes.  Both write a character that would end the text as a reference by name.
-/

namespace Facets.Html

/-- A character between tags. -/
def escapeTextChar (c : Char) : Text :=
  if c = '&' then "&amp;".toList
  else if c = '<' then "&lt;".toList
  else if c = '>' then "&gt;".toList
  else [c]

/-- A character in a double-quoted attribute. -/
def escapeAttributeChar (c : Char) : Text :=
  if c = '"' then "&quot;".toList else escapeTextChar c

/-- A text between tags. -/
def escapeText (t : Text) : Text := t.flatMap escapeTextChar

/-- A text in a double-quoted attribute. -/
def escapeAttribute (t : Text) : Text := t.flatMap escapeAttributeChar

end Facets.Html
