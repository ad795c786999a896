import Facets.Config.Stored
import Facets.Proofs.TomlStrings

/-!
# Reading back a stored configuration

A configuration is read back from what it is stored as, whatever its base URL consists of
(`Config.ofStored?_stored`).  A stored configuration has three or four statements, each on a line;
they are read one after the other, and the number of steps never runs out.
-/

namespace Facets

namespace Toml

/-! ## Values -/

/-- `readValue?` reads a value as a word that begins neither like a string nor like a container. -/
private theorem readValue?_word {c : Char}
    (h : c ∉ ['"', '\'', '[', '{']) (fuel depth : Nat) (t : Text) :
    readValue? (fuel + 1) depth (c :: t) = readPlain? (c :: t) := by
  simp only [List.mem_cons, List.not_mem_nil, or_false, not_or] at h
  rw [readValue?.eq_def]
  simp only
  split <;> simp_all

/-- `quote` begins with a mark, whichever way it writes a text. -/
theorem quote_eq_cons (t : Text) : ∃ mark w, quote t = mark :: w ∧ (mark = '"' ∨ mark = '\'') := by
  unfold quote
  cases QuoteStyle.of t with
  | basic => exact ⟨_, _, rfl, .inl rfl⟩
  | literal => exact ⟨_, _, rfl, .inr rfl⟩
  | basicLines => exact ⟨_, _, rfl, .inl rfl⟩
  | literalLines => exact ⟨_, _, rfl, .inr rfl⟩

/-- `readValue?` reads back what `quote` writes, up to the end of the line. -/
private theorem readValue?_quote (fuel depth : Nat) (t rest : Text) :
    readValue? (fuel + 1) depth (quote t ++ '\n' :: rest) = some (.string t, '\n' :: rest) := by
  have hread := readQuoted?_quote t rest
  obtain ⟨mark, w, hquote, rfl | rfl⟩ := quote_eq_cons t
  · rw [hquote, List.cons_append] at hread ⊢
    rw [readValue?, hread]
    rfl
  · rw [hquote, List.cons_append] at hread ⊢
    rw [readValue?, hread]
    rfl

/-- `skipGap` finds no space in front of a string. -/
private theorem skipGap_quote_append (t rest : Text) :
    skipGap (quote t ++ rest) = quote t ++ rest := by
  obtain ⟨mark, w, hquote, rfl | rfl⟩ := quote_eq_cons t
  · rw [hquote]
    rfl
  · rw [hquote]
    rfl

/-! ## Lines -/

/-- `readStatement?` reads a key with its value, unless the line begins like a table. -/
private theorem readStatement?_pair {t w rest : Text} {path : List Text} {key : Text} {v : Toml}
    (hhead : t.head? ≠ some '[') (hpath : readPath? t = some ((path, key), '=' :: w))
    (hvalue : readValue? (2 * w.length + 1) depthLimit (skipGap w) = some (v, rest)) :
    readStatement? t = some (.pair path key v, rest) := by
  unfold readStatement?
  split
  · exact absurd rfl hhead
  · exact absurd rfl hhead
  · have hequals : Text.dropPrefix? ['='] ('=' :: w) = some w := rfl
    simp [hpath, hequals, hvalue]

/-- `skipLines` stops where something is written. -/
private theorem skipLines_cons {c : Char} (hcomment : c ≠ '#') (hgap : isGap c = false)
    (hlf : c ≠ '\n') (hcr : c ≠ '\r') (t : Text) : skipLines (c :: t) = c :: t := by
  have hend := readLineEnd?_cons hlf hcr t
  rw [skipLines, if_neg hcomment, if_neg (by simp [hgap])]
  split
  · rename_i hsome
    rw [hend] at hsome
    cases hsome
  · rfl

/-- `skipLines` passes over the end of a line. -/
private theorem skipLines_line_end (t : Text) : skipLines ('\n' :: t) = skipLines t := by
  have hcomment : '\n' ≠ '#' := by decide
  have hgap : ¬isGap '\n' = true := by decide
  have hend : readLineEnd? ('\n' :: t) = some t := rfl
  rw [skipLines, if_neg hcomment, if_neg hgap]
  split
  · rename_i hsome
    rw [hend] at hsome
    cases hsome
    rfl
  · rename_i hnone
    rw [hend] at hnone
    cases hnone

/-- `readStatements?` passes over a line end in front of a document. -/
private theorem readStatements?_line_end (fuel : Nat) (t : Text) :
    readStatements? (fuel + 1) ('\n' :: t) = readStatements? (fuel + 1) t := by
  rw [readStatements?, readStatements?, skipLines_line_end]

/-- `readStatements?` reads a statement on a line of its own first. -/
private theorem readStatements?_cons {t rest : Text} {s : Statement} (hskip : skipLines t = t)
    (hread : readStatement? t = some (s, '\n' :: rest)) (hne : t ≠ []) (fuel : Nat) :
    readStatements? (fuel + 1) t = (readStatements? fuel rest).map (s :: ·) := by
  have hend : endLine? ('\n' :: rest) = some rest := rfl
  rw [readStatements?, hskip]
  cases t with
  | nil => exact absurd rfl hne
  | cons c t =>
    simp only [hread, hend, Option.bind_eq_bind, Option.bind_some]
    cases readStatements? fuel rest <;> rfl

/-- `readStatements?` reads a key without quotation marks and its value on a line of its own. -/
private theorem readStatements?_pair {c : Char} (hc : isBare c = true) {t w rest : Text}
    {key : Text} {v : Toml}
    (hpath : readPath? (c :: t) = some (([], key), '=' :: w))
    (hvalue : readValue? (2 * w.length + 1) depthLimit (skipGap w) = some (v, '\n' :: rest))
    (fuel : Nat) :
    readStatements? (fuel + 1) (c :: t) =
      (readStatements? fuel rest).map (.pair [] key v :: ·) := by
  -- No character of a bare key is one that a line may begin with otherwise.
  have hne : ∀ d, isBare d = false → c ≠ d := by
    rintro d hd rfl
    exact absurd hc (by simp [hd])
  have hgap : isGap c = false := by
    simpa [isGap] using ⟨hne ' ' (by decide), hne '\t' (by decide)⟩
  have hhead : (c :: t).head? ≠ some '[' := by simpa using hne '[' (by decide)
  exact readStatements?_cons
    (skipLines_cons (hne '#' (by decide)) hgap (hne '\n' (by decide)) (hne '\r' (by decide)) t)
    (readStatement?_pair hhead hpath hvalue) nofun fuel

end Toml

namespace Config

open Toml

/-! ## The statements of a stored configuration -/

private theorem readStatements?_version (fuel : Nat) (rest : Text) :
    readStatements? (fuel + 1) ("version = 1".toList ++ '\n' :: rest) =
      (readStatements? fuel rest).map (.pair [] "version".toList (.integer 1) :: ·) := by
  show readStatements? (fuel + 1) ('v' :: ("ersion = 1".toList ++ '\n' :: rest)) = _
  refine readStatements?_pair (by decide) (w := ' ' :: '1' :: '\n' :: rest) rfl ?_ fuel
  exact readValue?_word (by decide) _ _ _

/-- `readStatements?` reads the line of the base URL, whatever that is. -/
private theorem readStatements?_baseUrl (fuel : Nat) (url rest : Text) :
    readStatements? (fuel + 1) ("base_url = ".toList ++ (quote url ++ '\n' :: rest)) =
      (readStatements? fuel rest).map (.pair [] "base_url".toList (.string url) :: ·) := by
  show readStatements? (fuel + 1) ('b' :: ("ase_url = ".toList ++ (quote url ++ '\n' :: rest))) = _
  refine readStatements?_pair (by decide) (w := ' ' :: (quote url ++ '\n' :: rest)) rfl ?_ fuel
  -- The space after the sign is dropped, and the string follows.
  show readValue? _ _ (skipGap (quote url ++ '\n' :: rest)) = _
  rw [skipGap_quote_append, readValue?_quote]

private theorem readStatements?_output (fuel : Nat) (rest : Text) :
    readStatements? (fuel + 1) ("[output]".toList ++ '\n' :: rest) =
      (readStatements? fuel rest).map (.table [] "output".toList :: ·) := by
  show readStatements? (fuel + 1) ('[' :: ("output]".toList ++ '\n' :: rest)) = _
  exact readStatements?_cons
    (skipLines_cons (by decide) (by decide) (by decide) (by decide) _) rfl nofun fuel

/-- `readStatements?` reads the line of the colour setting. -/
private theorem readStatements?_color (fuel : Nat) (b : Bool) (rest : Text) :
    readStatements? (fuel + 1) ("color = ".toList ++ (Json.boolText b ++ '\n' :: rest)) =
      (readStatements? fuel rest).map (.pair [] "color".toList (.boolean b) :: ·) := by
  show readStatements? (fuel + 1)
    ('c' :: ("olor = ".toList ++ (Json.boolText b ++ '\n' :: rest))) = _
  refine readStatements?_pair (by decide) (w := ' ' :: (Json.boolText b ++ '\n' :: rest)) rfl ?_
    fuel
  cases b with
  | true =>
    show readValue? _ _ ('t' :: ("rue".toList ++ '\n' :: rest)) = _
    exact readValue?_word (by decide) _ _ _
  | false =>
    show readValue? _ _ ('f' :: ("alse".toList ++ '\n' :: rest)) = _
    exact readValue?_word (by decide) _ _ _

/-- What stands below the header of the output table. -/
def colorText (c : Config) : Text :=
  match c.color with
  | some b => "color = ".toList ++ (Json.boolText b ++ ['\n'])
  | none => []

/-- The statement that lays the colour setting down, if there is one. -/
def colorStatements (c : Config) : List Statement :=
  match c.color with
  | some b => [.pair [] "color".toList (.boolean b)]
  | none => []

/-- `stored`, line by line. -/
private theorem stored_eq (c : Config) :
    c.stored = "version = 1".toList ++ '\n' :: ("base_url = ".toList ++ (quote c.baseUrl ++
      '\n' :: '\n' :: ("[output]".toList ++ '\n' :: c.colorText))) := by
  have hversion : "version = ".toList ++ Text.decimal version = "version = 1".toList := by decide
  have hurl : "\nbase_url = ".toList = '\n' :: "base_url = ".toList := by decide
  have htable : "\n\n[output]\n".toList = '\n' :: '\n' :: ("[output]".toList ++ ['\n']) := by
    decide
  have hend : "\n".toList = ['\n'] := by decide
  unfold stored colorText
  rw [hversion, hurl, htable, hend]
  cases c.color with
  | none => simp only [List.append_assoc, List.cons_append, List.append_nil]
  | some b => simp only [List.append_assoc, List.cons_append, List.nil_append]

/-- `readStatements?` reads what stands below the header of the output table. -/
private theorem readStatements?_colorText (c : Config) (fuel : Nat) :
    readStatements? (fuel + 2) c.colorText = some c.colorStatements := by
  have hend : ∀ n, readStatements? (n + 1) [] = some [] := by
    intro n
    rw [readStatements?, skipLines]
  unfold colorText colorStatements
  cases c.color with
  | none => exact hend _
  | some b =>
    show readStatements? _ ("color = ".toList ++ (Json.boolText b ++ ['\n'])) = _
    rw [readStatements?_color, hend]
    rfl

/-- `readStatements?` reads all the statements of a stored configuration. -/
private theorem readStatements?_stored (c : Config) (fuel : Nat) :
    readStatements? (fuel + 5) c.stored =
      some ([.pair [] "version".toList (.integer 1), .pair [] "base_url".toList (.string c.baseUrl),
        .table [] "output".toList] ++ c.colorStatements) := by
  -- Each statement takes one step, and the empty line none.
  rw [stored_eq, readStatements?_version, readStatements?_baseUrl, readStatements?_line_end,
    readStatements?_output, readStatements?_colorText]
  rfl

/-- What a document of the statements of a configuration holds. -/
def storedEntries (c : Config) : Entries :=
  [("version".toList, .integer 1), ("base_url".toList, .string c.baseUrl),
    ("output".toList, .table .opened (match c.color with
      | some b => [("color".toList, .boolean b)]
      | none => []))]

/-- `read?` reads a stored configuration as its entries. -/
private theorem read?_stored (c : Config) : read? c.stored = some c.storedEntries := by
  obtain ⟨w, hw⟩ : ∃ w, c.stored = 'v' :: 'e' :: 'r' :: 's' :: w := ⟨_, stored_eq c⟩
  have hmark : dropByteOrderMark c.stored = c.stored := by
    rw [hw]
    rfl
  -- The text is longer than it has statements, so the steps do not run out.
  have hlength : c.stored.length + 1 = w.length + 5 := by simp [hw]
  unfold read?
  simp only [hmark, hlength, readStatements?_stored, Option.bind_eq_bind, Option.bind_some]
  unfold colorStatements storedEntries
  cases c.color with
  | none => rfl
  | some b => rfl

/-- `ofEntries?` reads a configuration back from its entries. -/
private theorem ofEntries?_storedEntries (c : Config) : ofEntries? c.storedEntries = some c := by
  obtain ⟨url, color⟩ := c
  cases color with
  | none => rfl
  | some b => rfl

/-- `ofStored?` reads a configuration back from what it is stored as. -/
theorem ofStored?_stored (c : Config) : ofStored? c.stored = some c := by
  unfold ofStored?
  rw [read?_stored, Option.bind_some, ofEntries?_storedEntries]

end Config

end Facets
