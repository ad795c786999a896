import Facets.Text.Basic

/-!
# UTF-8

`encode` writes a text in bytes.  `decode` reads any bytes at all: where they are no UTF-8, each
longest piece that begins a character without ending it is read as one replacement character,
and so is each byte that begins none.

A lead byte fixes how many bytes follow it and which values the first of them may have, so that
overlong forms, surrogates and values beyond the last code point are never read; the bytes
after it may have any value of a continuation byte.
-/

namespace Facets.Utf8

/-- What is read for bytes that are no character. -/
def replacement : Char := '\ufffd'

/-- The bytes of one character. -/
def encodeChar (c : Char) : List UInt8 :=
  let n := c.toNat
  if n < 0x80 then [.ofNat n]
  else if n < 0x800 then [.ofNat (0xc0 + n / 64), .ofNat (0x80 + n % 64)]
  else if n < 0x10000 then
    [.ofNat (0xe0 + n / 4096), .ofNat (0x80 + n / 64 % 64), .ofNat (0x80 + n % 64)]
  else
    [.ofNat (0xf0 + n / 262144), .ofNat (0x80 + n / 4096 % 64), .ofNat (0x80 + n / 64 % 64),
      .ofNat (0x80 + n % 64)]

/-- `Char.toNat` is no half of a surrogate pair and not beyond the last code point. -/
theorem toNat_range (c : Char) :
    c.toNat < 0xd800 ∨ 0xdfff < c.toNat ∧ c.toNat < 0x110000 := by
  have h := c.valid
  simpa [UInt32.isValidChar, Nat.isValidChar] using h

/-- The bytes of a text. -/
def encode (t : Text) : List UInt8 := t.flatMap encodeChar

/-- The character that `count` more bytes complete, where the bits so far are `bits` and the
    next byte lies from `low` to `high`; what is left begins with the first byte that does not
    fit. -/
def decodeTail : (count low high bits : Nat) → List UInt8 → Char × List UInt8
  | 0, _, _, bits, bytes => (Char.ofNat bits, bytes)
  | _ + 1, _, _, _, [] => (replacement, [])
  | count + 1, low, high, bits, b :: bytes =>
    if low ≤ b.toNat ∧ b.toNat ≤ high then
      decodeTail count 0x80 0xbf (bits * 64 + b.toNat % 64) bytes
    else (replacement, b :: bytes)

/-- The character that begins with the byte `lead`, and what is left after it. -/
def decodeLead (lead : UInt8) (bytes : List UInt8) : Char × List UInt8 :=
  let n := lead.toNat
  if n < 0x80 then (Char.ofNat n, bytes)
  -- A continuation byte, or the lead byte of forms that are all overlong.
  else if n < 0xc2 then (replacement, bytes)
  else if n < 0xe0 then decodeTail 1 0x80 0xbf (n % 32) bytes
  else if n < 0xf0 then
    -- Lower second bytes would be overlong, higher ones a surrogate.
    decodeTail 2 (if n = 0xe0 then 0xa0 else 0x80) (if n = 0xed then 0x9f else 0xbf) (n % 16) bytes
  else if n < 0xf5 then
    -- Lower second bytes would be overlong, higher ones beyond the last code point.
    decodeTail 3 (if n = 0xf0 then 0x90 else 0x80) (if n = 0xf4 then 0x8f else 0xbf) (n % 8) bytes
  else (replacement, bytes)

theorem length_decodeTail_le (count low high bits : Nat) (bytes : List UInt8) :
    (decodeTail count low high bits bytes).2.length ≤ bytes.length := by
  induction count generalizing low high bits bytes with
  | zero => simp [decodeTail]
  | succ count ih =>
    cases bytes with
    | nil => simp [decodeTail]
    | cons b bytes =>
      simp only [decodeTail]
      split
      · exact Nat.le_succ_of_le (ih _ _ _ _)
      · exact Nat.le_refl _

/-- `decodeLead` gives no bytes back, so none is read twice. -/
theorem length_decodeLead_le (lead : UInt8) (bytes : List UInt8) :
    (decodeLead lead bytes).2.length ≤ bytes.length := by
  simp only [decodeLead]
  split
  · exact Nat.le_refl _
  split
  · exact Nat.le_refl _
  split
  · exact length_decodeTail_le _ _ _ _ _
  split
  · exact length_decodeTail_le _ _ _ _ _
  split
  · exact length_decodeTail_le _ _ _ _ _
  · exact Nat.le_refl _

/-- The text that some bytes write, with replacement characters for what is no UTF-8. -/
def decode : List UInt8 → Text
  | [] => []
  | lead :: bytes => (decodeLead lead bytes).1 :: decode (decodeLead lead bytes).2
termination_by bytes => bytes.length
decreasing_by exact Nat.lt_succ_of_le (length_decodeLead_le lead bytes)

end Facets.Utf8
