import Facets.Text.Digits
import Facets.Text.Utf8

/-!
# Form encoding

`Percent.formEncode` writes a text as web pages write what is filled into forms: letters, digits,
`*`, `-`, `.` and `_` stand for themselves, a space is written as `+`, and every other byte of the
UTF-8 form as `%` and two upper-case hexadecimal digits.  In URLs `Percent.escapeForm` leaves
neither `+` nor `*` of it.

`Percent.decode` reads the form encoding, in which any other character may be left as it is; a `%`
without two digits after it stands for itself, and bytes that are no UTF-8 are replaced.
-/

namespace Facets.Percent

/-- Whether a byte stands for itself. -/
def isFormPlain (b : UInt8) : Bool :=
  let c := Char.ofNat b.toNat
  c.isAlphanum || c == '*' || c == '-' || c == '.' || c == '_'

/-- A byte in the form encoding. -/
def formByte (b : UInt8) : Text :=
  if b = 0x20 then ['+']
  else if isFormPlain b then [Char.ofNat b.toNat]
  else ['%', Text.upperHex (b.toNat / 16), Text.upperHex (b.toNat % 16)]

/-- A text in the form encoding. -/
def formEncode (t : Text) : Text := (Utf8.encode t).flatMap formByte

/-- What is in the form encoding as it stands in a URL, with `%20` for each `+`, which is a space,
    and then `%2A` for each `*`. -/
def escapeForm (t : Text) : Text :=
  Text.replaceChar '*' "%2A".toList (Text.replaceChar '+' "%20".toList t)

/-- The byte that two hexadecimal digits write, and what follows them. -/
def escaped? : Text → Option (UInt8 × Text)
  | a :: b :: rest => do
    let high ← Text.digitValue? 16 a
    let low ← Text.digitValue? 16 b
    return (.ofNat (high * 16 + low), rest)
  | _ => none

theorem length_of_escaped? {t rest : Text} {b : UInt8} (h : escaped? t = some (b, rest)) :
    rest.length < t.length := by
  match t with
  | [] => simp [escaped?] at h
  | [_] => simp [escaped?] at h
  | x :: y :: t =>
    simp only [escaped?, Option.bind_eq_bind, Option.bind_eq_some_iff, Option.pure_def,
      Option.some.injEq, Prod.mk.injEq] at h
    obtain ⟨_, _, _, _, _, rfl⟩ := h
    simp only [List.length_cons]
    omega

/-- The bytes that a form-encoded text stands for. -/
def decodeBytes : Text → List UInt8
  | [] => []
  | c :: cs =>
    if c = '%' then
      match h : escaped? cs with
      | some (b, rest) =>
        have := length_of_escaped? h
        b :: decodeBytes rest
      -- Not two digits: the percent sign stands for itself.
      | none => Utf8.encodeChar c ++ decodeBytes cs
    else if c = '+' then Utf8.encodeChar ' ' ++ decodeBytes cs
    else Utf8.encodeChar c ++ decodeBytes cs
termination_by t => t.length

/-- The text that a form-encoded text stands for. -/
def decode (t : Text) : Text := Utf8.decode (decodeBytes t)

end Facets.Percent
