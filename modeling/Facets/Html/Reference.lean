import Facets.Html.ReferenceTable
import Facets.Text.Digits

/-!
# Character references of HTML

`Html.decode` replaces the character references of a text, in one pass: what a reference stands
for is not read again.  A reference is `&`, a body without `&` and `;`, and `;`.  Its body is a
name of the standard, or `#` and decimal digits, or `#x` and hexadecimal digits.  Whatever
else begins with `&` stands for itself.
-/

namespace Facets.Html

namespace Reference

/-- The names that the escapes of this library use; they are looked up first. -/
def common : List (Text × Char) :=
  [("amp".toList, '&'), ("lt".toList, '<'), ("gt".toList, '>'), ("quot".toList, '"'),
    ("apos".toList, '\'')]

/-- The character of a name. -/
def named? (name : Text) : Option Char :=
  match common.lookup name with
  | some c => some c
  | none => match name with
    | [] => none
    | first :: _ => ((namesFrom first).lookup (String.ofList name)).map Char.ofNat

/-- Whether a code point may be given by number: it is a character, and of the control
    characters below the space only the tab, the line feed, the form feed and the carriage
    return. -/
def isNumeric (n : Nat) : Bool :=
  n.isValidChar && (0x20 ≤ n || n == 0x09 || n == 0x0a || n == 0x0c || n == 0x0d)

/-- The character of a number. -/
def numbered? (base : Nat) (digits : Text) : Option Char :=
  ((Text.numeral? base digits).filter isNumeric).map Char.ofNat

/-- The character that a reference with this body stands for. -/
def character? : Text → Option Char
  | '#' :: 'x' :: digits => numbered? 16 digits
  | '#' :: 'X' :: digits => numbered? 16 digits
  | '#' :: digits => numbered? 10 digits
  | name => named? name

/-- Whether a character may stand in the body of a reference. -/
def inBody (c : Char) : Bool := c != ';' && c != '&'

end Reference

theorem length_dropWhile_le (p : Char → Bool) (t : Text) : (t.dropWhile p).length ≤ t.length :=
  (List.dropWhile_sublist p).length_le

open Reference in
/-- A text with its character references replaced. -/
def decode : Text → Text
  | [] => []
  | c :: cs =>
    if c = '&' then
      let body := cs.takeWhile inBody
      match h : cs.dropWhile inBody with
      | ';' :: rest =>
        have : rest.length < cs.length := by
          have := length_dropWhile_le inBody cs
          rw [h, List.length_cons] at this
          exact this
        match character? body with
        | some x => x :: decode rest
        | none => '&' :: body ++ ';' :: decode rest
      -- The text ends, or another `&` comes first: it may begin a reference of its own.
      | rest =>
        have : rest.length ≤ cs.length := h ▸ length_dropWhile_le inBody cs
        '&' :: body ++ decode rest
    else c :: decode cs
termination_by t => t.length

end Facets.Html
