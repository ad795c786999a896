import Facets.Text.Percent
import Mathlib.Data.List.Basic

/-!
# What is form encoded is read back

A text goes through the form encoding, in which `+` and `*` are then replaced
(`Percent.escapeForm`).  What comes of that can be said at once: `Percent.encode` writes each byte
of a text as it is or as a percent escape, and `Percent.escapeForm_formEncode` says that this is
the same.

`Percent.decode_encode`: every text is read back from its percent escapes.  It goes through two
layers, each with its own round trip, since the escapes stand for bytes and the bytes for
characters: `Percent.decodeBytes_encodeBytes` and `Utf8.decode_encode`.
-/

namespace Facets

/-! ## UTF-8 -/

namespace Utf8

/-- `UInt8.ofNat` keeps what fits into a byte. -/
private theorem toNat_ofNat {n : Nat} (h : n < 256) : (UInt8.ofNat n).toNat = n :=
  UInt8.toNat_ofNat_of_lt' h

/-- `decodeTail` adds the six bits of a continuation byte to those read so far. -/
private theorem decodeTail_continuation {low high n : Nat} (hlow : low ≤ 0x80 + n % 64)
    (hhigh : 0x80 + n % 64 ≤ high) (count bits : Nat) (bytes : List UInt8) :
    decodeTail (count + 1) low high bits (.ofNat (0x80 + n % 64) :: bytes) =
      decodeTail count 0x80 0xbf (bits * 64 + n % 64) bytes := by
  have hbyte : (UInt8.ofNat (0x80 + n % 64)).toNat = 0x80 + n % 64 :=
    toNat_ofNat (by omega)
  have hbits : (0x80 + n % 64) % 64 = n % 64 := by omega
  rw [decodeTail, hbyte, if_pos ⟨hlow, hhigh⟩, hbits]

/-- The bytes that `encodeChar` gives begin with one from which `decodeLead` reads the character and
    nothing of what follows. -/
private theorem decodeLead_encodeChar (c : Char) (rest : List UInt8) :
    ∃ lead tail, encodeChar c = lead :: tail ∧ decodeLead lead (tail ++ rest) = (c, rest) := by
  have hc : Char.ofNat c.toNat = c := Char.ofNat_toNat c
  have hrange := toNat_range c
  simp only [encodeChar]
  generalize c.toNat = n at hc hrange ⊢
  -- The bounds of each length of form are those of the bits that it has room for.
  split
  · rename_i h₁
    refine ⟨_, _, rfl, ?_⟩
    have hlead : (UInt8.ofNat n).toNat = n := toNat_ofNat (by omega)
    simp only [decodeLead, hlead]
    rw [if_pos h₁, hc]
    rfl
  split
  · rename_i h₁ h₂
    refine ⟨_, _, rfl, ?_⟩
    have hlead : (UInt8.ofNat (0xc0 + n / 64)).toNat = 0xc0 + n / 64 :=
      toNat_ofNat (by omega)
    have hbits : (0xc0 + n / 64) % 32 * 64 + n % 64 = n := by omega
    simp only [decodeLead, hlead, List.cons_append, List.nil_append]
    rw [if_neg (by omega), if_neg (by omega), if_pos (by omega),
      decodeTail_continuation (by omega) (by omega), hbits, decodeTail, hc]
  split
  · rename_i h₁ h₂ h₃
    refine ⟨_, _, rfl, ?_⟩
    have hlead : (UInt8.ofNat (0xe0 + n / 4096)).toNat = 0xe0 + n / 4096 :=
      toNat_ofNat (by omega)
    have hbits : ((0xe0 + n / 4096) % 16 * 64 + n / 64 % 64) * 64 + n % 64 = n := by omega
    simp only [decodeLead, hlead, List.cons_append, List.nil_append]
    rw [if_neg (by omega), if_neg (by omega), if_neg (by omega), if_pos (by omega),
      decodeTail_continuation (by split <;> omega) (by split <;> omega),
      decodeTail_continuation (by omega) (by omega), hbits, decodeTail, hc]
  · rename_i h₁ h₂ h₃
    refine ⟨_, _, rfl, ?_⟩
    have hlead : (UInt8.ofNat (0xf0 + n / 262144)).toNat = 0xf0 + n / 262144 :=
      toNat_ofNat (by omega)
    have hbits : (((0xf0 + n / 262144) % 8 * 64 + n / 4096 % 64) * 64 + n / 64 % 64) * 64 +
        n % 64 = n := by omega
    simp only [decodeLead, hlead, List.cons_append, List.nil_append]
    rw [if_neg (by omega), if_neg (by omega), if_neg (by omega), if_neg (by omega),
      if_pos (by omega), decodeTail_continuation (by split <;> omega) (by split <;> omega),
      decodeTail_continuation (by omega) (by omega),
      decodeTail_continuation (by omega) (by omega), hbits, decodeTail, hc]

/-- `decode` reads a character back, whatever bytes follow. -/
private theorem decode_encodeChar_append (c : Char) (rest : List UInt8) :
    decode (encodeChar c ++ rest) = c :: decode rest := by
  -- The decoder goes on with what follows the character.
  obtain ⟨lead, tail, hbytes, hlead⟩ := decodeLead_encodeChar c rest
  rw [hbytes, List.cons_append, decode, hlead]

/-- `Utf8.decode` reads every text back from its bytes. -/
theorem decode_encode (t : Text) : decode (encode t) = t := by
  induction t with
  | nil => rw [encode, List.flatMap_nil, decode]
  | cons c cs ih =>
    rw [encode] at ih ⊢
    rw [List.flatMap_cons, decode_encodeChar_append, ih]

end Utf8

/-! ## Percent escapes -/

namespace Percent

/-- Whether a byte is written as it is. -/
def isPlain (b : UInt8) : Bool :=
  let c := Char.ofNat b.toNat
  c.isAlphanum || c == '-' || c == '.' || c == '_'

/-- A byte as it stands in a query, as it is or as a percent escape. -/
def encodeByte (b : UInt8) : Text :=
  if isPlain b then [Char.ofNat b.toNat]
  else ['%', Text.upperHex (b.toNat / 16), Text.upperHex (b.toNat % 16)]

/-- A text as it stands in a query, byte by byte. -/
def encode (t : Text) : Text := (Utf8.encode t).flatMap encodeByte

/-- `escaped?` reads two upper-case digits as the byte that they write. -/
private theorem escaped?_upperHex (b : UInt8) (rest : Text) :
    escaped? (Text.upperHex (b.toNat / 16) :: Text.upperHex (b.toNat % 16) :: rest) =
      some (b, rest) := by
  have hb := b.toNat_lt
  have hhigh := Text.digitValue?_upperHex (show b.toNat / 16 < 16 by omega)
  have hlow := Text.digitValue?_upperHex (show b.toNat % 16 < 16 by omega)
  have hsum : b.toNat / 16 * 16 + b.toNat % 16 = b.toNat := by omega
  simp only [escaped?, hhigh, hlow, Option.bind_eq_bind, Option.bind_some, Option.pure_def, hsum,
    UInt8.ofNat_toNat]

/-- A byte that `isPlain` is the one byte of its character, and that character has no meaning of its
    own in a query. -/
theorem isPlain_spec {b : UInt8} (h : isPlain b = true) :
    Utf8.encodeChar (Char.ofNat b.toNat) = [b] ∧
      Char.ofNat b.toNat ∉ ['%', '+', '*', '&', '='] := by
  -- All bytes are tried.
  have hall : ∀ n < 256, isPlain (.ofNat n) = true →
      Utf8.encodeChar (Char.ofNat n) = [.ofNat n] ∧
        Char.ofNat n ∉ ['%', '+', '*', '&', '='] := by
    decide +kernel
  have hb := hall b.toNat b.toNat_lt
  rw [UInt8.ofNat_toNat] at hb
  exact hb h

/-- `decodeBytes` reads a byte back from its escape, whatever follows. -/
private theorem decodeBytes_encodeByte_append (b : UInt8) (rest : Text) :
    decodeBytes (encodeByte b ++ rest) = b :: decodeBytes rest := by
  rw [encodeByte]
  split
  · rename_i hplain
    obtain ⟨hchar, hmem⟩ := isPlain_spec hplain
    simp only [List.mem_cons, not_or] at hmem
    -- A plain byte is a character of its own.
    rw [List.singleton_append, decodeBytes, if_neg hmem.1, if_neg hmem.2.1, hchar]
    rfl
  · -- The escape begins with `%`, which is read with the two digits after it.
    have hesc := escaped?_upperHex b rest
    simp only [List.cons_append, List.nil_append]
    rw [decodeBytes, if_pos rfl]
    split
    · rename_i h
      rw [hesc] at h
      cases h
      rfl
    · rename_i h
      rw [hesc] at h
      cases h

/-- `decodeBytes` reads bytes back from their escapes. -/
theorem decodeBytes_encodeBytes (bytes : List UInt8) :
    decodeBytes (bytes.flatMap encodeByte) = bytes := by
  induction bytes with
  | nil => rw [List.flatMap_nil, decodeBytes]
  | cons b bytes ih => rw [List.flatMap_cons, decodeBytes_encodeByte_append, ih]

/-- `Percent.decode` reads every text back from `Percent.encode`. -/
theorem decode_encode (t : Text) : decode (encode t) = t := by
  rw [decode, encode, decodeBytes_encodeBytes, Utf8.decode_encode]

/-- `encodeByte` gives no character with a meaning of its own in a query, apart from `%`. -/
private theorem not_mem_encodeByte {c : Char} (hc : c ∈ ['+', '*', '&', '=']) (b : UInt8) :
    c ∉ encodeByte b := by
  intro h
  rw [encodeByte] at h
  split at h
  · rename_i hplain
    rw [List.mem_singleton] at h
    have hmem := (isPlain_spec hplain).2
    rw [← h] at hmem
    exact hmem (List.mem_cons_of_mem _ hc)
  · -- An escape has `%` and two digits.
    have hhex : ∀ n < 16, Text.upperHex n ∉ ['+', '*', '&', '='] := by decide
    have hlt := b.toNat_lt
    simp only [List.mem_cons, List.not_mem_nil, or_false] at h
    rcases h with rfl | rfl | rfl
    · exact absurd hc (by decide)
    · exact hhex _ (by omega) hc
    · exact hhex _ (by omega) hc

/-- Nor does `encode`. -/
theorem not_mem_encode {c : Char} (hc : c ∈ ['+', '*', '&', '=']) (t : Text) : c ∉ encode t := by
  intro h
  obtain ⟨b, -, hb⟩ := List.mem_flatMap.mp h
  exact not_mem_encodeByte hc b hb

/-! ## The form encoding -/

/-- `escapeForm` goes part by part. -/
theorem escapeForm_append (a b : Text) : escapeForm (a ++ b) = escapeForm a ++ escapeForm b := by
  simp only [escapeForm, Text.replaceChar, List.flatMap_append]

/-- `escapeForm` replaces `+` and `*` only. -/
theorem escapeForm_singleton {c : Char} (hplus : c ≠ '+') (hstar : c ≠ '*') :
    escapeForm [c] = [c] := by
  rw [escapeForm, Text.replaceChar, Text.replaceChar, List.flatMap_singleton, if_neg hplus,
    List.flatMap_singleton, if_neg hstar]

/-- `formEncode` and `escapeForm` come to `encode`. -/
theorem escapeForm_formEncode (t : Text) : escapeForm (formEncode t) = encode t := by
  -- A replaced character is a whole byte of the form encoding, so bytes can be taken one by one,
  -- and all of them can be tried.
  have hall : ∀ n < 256, escapeForm (formByte (.ofNat n)) = encodeByte (.ofNat n) := by
    decide +kernel
  have hbyte (b : UInt8) : escapeForm (formByte b) = encodeByte b := by
    have hb := hall b.toNat b.toNat_lt
    rwa [UInt8.ofNat_toNat] at hb
  rw [formEncode, encode]
  induction Utf8.encode t with
  | nil => rfl
  | cons b bytes ih => rw [List.flatMap_cons, List.flatMap_cons, escapeForm_append, hbyte, ih]

end Percent

end Facets
