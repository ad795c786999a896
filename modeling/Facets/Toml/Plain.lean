import Facets.Text.Digits
import Facets.Toml.Basic

/-!
# Numbers, times and truth values in TOML

A value that is neither a string nor a container is one word of letters, digits, signs, dots,
colons and underscores; only a date and a time may stand as two words with one space between.
`plain?` gives the value of a word.

Underscores may stand between digits.  Integers have 64 bits, and a decimal one has no leading
zero.  Floating-point numbers have double precision, and positive ones must be finite.  Times have
seconds, and their parts are those of real days and clocks, with leap seconds.
-/

namespace Facets.Toml

/-- Whether a character may stand in a word. -/
def inWord (c : Char) : Bool :=
  c.isAlphanum || c == '+' || c == '-' || c == '_' || c == '.' || c == ':'

/-! ## Numbers -/

/-- The digits of a numeral, without the underscores between them. -/
def digits? (base : Nat) (t : Text) : Option Text :=
  let groups := Text.pieces '_' t
  if groups.all fun g => g != [] && g.all (Text.isDigitOf base) then some groups.flatten else none

/-- The sign of a number and what follows it. -/
def cutSign : Text → Int × Text
  | '-' :: cs => (-1, cs)
  | '+' :: cs => (1, cs)
  | t => (1, t)

/-- The value of a numeral. -/
def natural? (base : Nat) (t : Text) : Option Nat := (digits? base t).bind (Text.numeral? base)

/-- The value of a decimal numeral, which has no leading zero. -/
def decimal? (t : Text) : Option Nat :=
  if t.head? = some '0' ∧ t.length ≠ 1 then none else natural? 10 t

/-- The value of an integer of any size. -/
def anyInteger? : Text → Option Int
  | '0' :: 'x' :: cs => (natural? 16 cs).map Int.ofNat
  | '0' :: 'o' :: cs => (natural? 8 cs).map Int.ofNat
  | '0' :: 'b' :: cs => (natural? 2 cs).map Int.ofNat
  | t => (decimal? (cutSign t).2).map fun n => (cutSign t).1 * n

/-- The value of an integer, which has 64 bits. -/
def integer? (t : Text) : Option Int :=
  (anyInteger? t).filter fun n => -0x8000000000000000 ≤ n && n < 0x8000000000000000

/-- A number with a point: its digits as one number, and the power of ten of the last one. -/
def pointed? (t : Text) : Option (Nat × Int) := do
  let (whole, fraction) ← Text.cut? '.' t
  let _ ← decimal? whole
  let wholeDigits ← digits? 10 whole
  let digits ← digits? 10 fraction
  let n ← Text.numeral? 10 (wholeDigits ++ digits)
  return (n, -digits.length)

/-- A number that has a point, an exponent or both: its digits as one number, and the power of ten
    of the last one. -/
def scientific? (t : Text) : Option (Nat × Int) :=
  match Text.cut? 'e' (t.map fun c => if c = 'E' then 'e' else c) with
  | none => pointed? t
  | some (mantissa, exponent) => do
    let (n, power) ← ((decimal? mantissa).map fun n => (n, 0)).or (pointed? mantissa)
    let (sign, digits) := cutSign exponent
    return (n, power + sign * (← natural? 10 digits))

/-- The least number that no double-precision number is near to: half a unit in the last place
    beyond the greatest of these. -/
def doubleLimit : Nat := Nat.pow 2 1024 - Nat.pow 2 970

/-- Whether `n` times ten to the power `power` is too great for double precision. -/
def isTooGreat (n : Nat) (power : Int) : Bool :=
  let magnitude : Int := (Text.decimal n).length + power
  -- Only near the limit, which has 309 digits, need the powers of ten be worked out.
  if n = 0 ∨ magnitude < 308 then false
  else if 310 < magnitude then true
  else doubleLimit * Nat.pow 10 (-power).toNat ≤ n * Nat.pow 10 power.toNat

/-- Whether a text is a floating-point number: one of the special values, or a number with a point
    or an exponent, which must not be too great. -/
def isFloat (t : Text) : Bool :=
  let (sign, t) := cutSign t
  t == "inf".toList || t == "nan".toList ||
    (scientific? t).any fun (n, power) => sign < 0 || !isTooGreat n power

/-! ## Times -/

/-- The value of exactly so many digits. -/
def fixed? (count : Nat) (t : Text) : Option Nat :=
  if t.length = count then Text.numeral? 10 t else none

/-- The number of days of a month. -/
def daysInMonth (year month : Nat) : Nat :=
  if month = 2 then
    if year % 4 = 0 ∧ (year % 100 ≠ 0 ∨ year % 400 = 0) then 29 else 28
  else if month = 4 ∨ month = 6 ∨ month = 9 ∨ month = 11 then 30
  else 31

/-- Whether a text is a date. -/
def isDate (t : Text) : Bool :=
  match Text.pieces '-' t with
  | [y, m, d] =>
    match fixed? 4 y, fixed? 2 m, fixed? 2 d with
    | some y, some m, some d => 1 ≤ m && m ≤ 12 && 1 ≤ d && d ≤ daysInMonth y m
    | _, _, _ => false
  | _ => false

/-- Whether a text is a number of two digits up to a limit. -/
def isPart (limit : Nat) (t : Text) : Bool := (fixed? 2 t).any (· ≤ limit)

/-- Whether a text is a time of day, perhaps with a fraction of a second. -/
def isClock (t : Text) : Bool :=
  let (whole, fraction?) := match Text.cut? '.' t with
    | some (whole, fraction) => (whole, some fraction)
    | none => (t, none)
  (match Text.pieces ':' whole with
    | [h, m, s] => isPart 23 h && isPart 59 m && isPart 60 s
    | _ => false) &&
  fraction?.all fun f => f != [] && f.all Char.isDigit

/-- Whether a text is the offset of a time zone. -/
def isOffset : Text → Bool
  | [c] => c == 'Z' || c == 'z'
  | sign :: cs =>
    (sign == '+' || sign == '-') &&
    match Text.pieces ':' cs with
    | [h, m] => isPart 23 h && isPart 59 m
    | _ => false
  | [] => false

/-- Whether a text is a time of day, perhaps with the offset of its zone. -/
def isZonedClock (t : Text) : Bool :=
  let inClock (c : Char) : Bool := c.isDigit || c == ':' || c == '.'
  let offset := t.dropWhile inClock
  isClock (t.takeWhile inClock) && (offset == [] || isOffset offset)

/-- Whether a text is a date with a time of day after the letter T. -/
def isDateTime (t : Text) : Bool :=
  isDate (t.take 10) &&
    match t.drop 10 with
    | c :: clock => (c == 'T' || c == 't') && isZonedClock clock
    | [] => false

/-! ## Words -/

/-- The value of a word. -/
def plain? (t : Text) : Option Toml :=
  if t = "true".toList then some (.boolean true)
  else if t = "false".toList then some (.boolean false)
  else if isDate t || isClock t || isDateTime t then some (.time t)
  else match integer? t with
    | some n => some (.integer n)
    | none => if isFloat t then some (.float t) else none

/-- The value at the start of a text that is neither a string nor a container. -/
def readPlain? (t : Text) : Option (Toml × Text) :=
  let word := t.takeWhile inWord
  let rest := t.dropWhile inWord
  match isDate word, rest with
  | true, ' ' :: cs =>
    -- The one value of two words.
    let clock := cs.takeWhile inWord
    if isZonedClock clock then some (.time (word ++ ' ' :: clock), cs.dropWhile inWord)
    else some (.time word, rest)
  | _, _ => (plain? word).map fun v => (v, rest)

end Facets.Toml
