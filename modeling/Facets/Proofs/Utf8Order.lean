import Facets.Text.Utf8
import Mathlib.Data.List.Lex

/-!
# The order of texts and of their bytes

Texts are ordered by their characters, and these by their code points.  UTF-8 keeps this order: the
bytes of two texts compare as the texts do (`Utf8.encode_lt_encode_iff`), so it makes no
difference which of them a list is sorted by.
-/

namespace Facets.Utf8

/-- Lists of bytes are compared by the values of `UInt8.ofNat`, and equal ones by what follows them.
    -/
private theorem ofNat_cons_lt_iff {a b : Nat} (ha : a < 256) (hb : b < 256) {s t : List UInt8} :
    UInt8.ofNat a :: s < UInt8.ofNat b :: t ↔ a < b ∨ a = b ∧ s < t := by
  have ha' : (UInt8.ofNat a).toNat = a := UInt8.toNat_ofNat_of_lt' ha
  have hb' : (UInt8.ofNat b).toNat = b := UInt8.toNat_ofNat_of_lt' hb
  rw [List.cons_lt_cons_iff, UInt8.lt_iff_toNat_lt, ← UInt8.toNat_inj, ha', hb']

/-- `encodeChar` puts the bytes of a character before those of a later one, whatever follows them.
    -/
private theorem encodeChar_append_lt {c d : Char} (h : c < d) (s t : List UInt8) :
    encodeChar c ++ s < encodeChar d ++ t := by
  have hlt : c.toNat < d.toNat := h
  have hd := toNat_range d
  simp only [encodeChar]
  generalize c.toNat = n at hlt ⊢
  generalize d.toNat = m at hlt hd ⊢
  repeat' split
  -- The later character has no shorter form than the other one.
  any_goals omega
  -- A longer form begins with a greater byte, and in forms of one length the first bytes that
  -- differ decide.
  all_goals
    simp (disch := omega) only [List.cons_append, List.nil_append, ofNat_cons_lt_iff]
    omega

private theorem encodeChar_ne_nil (c : Char) : encodeChar c ≠ [] := by
  simp only [encodeChar]
  repeat' split
  all_goals exact List.cons_ne_nil _ _

/-- Bytes `u` that two lists have in common at the front make no difference. -/
private theorem append_lt_append_iff (u : List UInt8) {s t : List UInt8} :
    u ++ s < u ++ t ↔ s < t := by
  induction u with
  | nil => rfl
  | cons a u ih => simp [ih]

private theorem encode_cons (c : Char) (t : Text) : encode (c :: t) = encodeChar c ++ encode t :=
  List.flatMap_cons

/-- `encode` keeps the order of texts. -/
theorem encode_lt_encode_iff {s t : Text} : encode s < encode t ↔ s < t := by
  induction s generalizing t with
  | nil =>
    cases t with
    | nil => exact iff_of_false (List.not_lt_nil _) (List.not_lt_nil _)
    | cons d t =>
      obtain ⟨b, bs, hbytes⟩ := List.exists_cons_of_ne_nil (encodeChar_ne_nil d)
      rw [encode_cons, hbytes]
      exact iff_of_true (List.nil_lt_cons _ _) (List.nil_lt_cons _ _)
  | cons c s ih =>
    cases t with
    | nil => exact iff_of_false (List.not_lt_nil _) (List.not_lt_nil _)
    | cons d t =>
      rw [encode_cons, encode_cons]
      -- The first characters decide, unless they are the same.
      rcases Nat.lt_trichotomy c.toNat d.toNat with h | h | h
      · exact iff_of_true (encodeChar_append_lt h _ _) (List.cons_lt_cons_iff.mpr (.inl h))
      · obtain rfl : c = d := Char.toNat_inj.mp h
        simp [append_lt_append_iff, ih]
      · -- The bytes are in the other order, too.
        have hbytes := encodeChar_append_lt h (encode t) (encode s)
        have htexts : d :: t < c :: s := List.cons_lt_cons_iff.mpr (.inl h)
        exact iff_of_false (List.lt_asymm hbytes) (List.lt_asymm htexts)

end Facets.Utf8
