import Facets.Text.Basic

/-!
# Numbers written in digits

`digitValue?` and `numeral?` read digits of a base up to sixteen, `upperHex` and `lowerHex`
write one hexadecimal digit, and `decimal` writes a number in base ten.
-/

namespace Facets.Text

/-- The value of a digit, letters of either case counting from ten. -/
def digitValue? (base : Nat) (c : Char) : Option Nat :=
  let value? :=
    if '0' ≤ c ∧ c ≤ '9' then some (c.toNat - '0'.toNat)
    else if 'a' ≤ c ∧ c ≤ 'f' then some (c.toNat - 'a'.toNat + 10)
    else if 'A' ≤ c ∧ c ≤ 'F' then some (c.toNat - 'A'.toNat + 10)
    else none
  value?.filter (· < base)

/-- Whether a character is a digit of a base. -/
def isDigitOf (base : Nat) (c : Char) : Bool := (digitValue? base c).isSome

/-- The number that some digits write, the most significant digit first; with no digits, zero. -/
def digitsValue? (base : Nat) (t : Text) : Option Nat :=
  t.foldlM (fun n c => (digitValue? base c).map (n * base + ·)) 0

/-- The number that a text writes when it consists of digits and has at least one. -/
def numeral? (base : Nat) (t : Text) : Option Nat :=
  if t = [] then none else digitsValue? base t

/-- The digit of a value below sixteen, letters in upper case. -/
def upperHex (n : Nat) : Char :=
  if n < 10 then Char.ofNat ('0'.toNat + n) else Char.ofNat ('A'.toNat + (n - 10))

/-- The digit of a value below sixteen, letters in lower case. -/
def lowerHex (n : Nat) : Char :=
  if n < 10 then Char.ofNat ('0'.toNat + n) else Char.ofNat ('a'.toNat + (n - 10))

/-- A number in decimal digits. -/
def decimal (n : Nat) : Text := Nat.toDigits 10 n

/-- `digitValue?` reads a hexadecimal digit back, in upper case. -/
theorem digitValue?_upperHex {n : Nat} (h : n < 16) : digitValue? 16 (upperHex n) = some n := by
  have := (by decide : ∀ n : Fin 16, digitValue? 16 (upperHex n) = some n.val)
  exact this ⟨n, h⟩

end Facets.Text
