import Facets.Json.Reader
import Facets.Json.Writer

/-!
# Reading what was written as JSON

A document without numbers is read back from the text that `Json.compact` writes, whatever
characters its strings consist of and however deep it is nested (`Json.read?_compact`).

Each reader is shown to stop just where the text of its part ends, with any text after it.  The
steps that it may take are bounded by the length of the part.

The lemmas on lists of documents and on parts of a document serve the values that are stored as
documents.
-/

namespace Facets

/-! ## Lists of documents -/

/-- What `read` makes of each document that `write` gives, `mapM` makes of the list of them. -/
theorem mapM_map_of_forall {α β γ : Type} {write : α → β} {read : β → Option γ} {g : α → γ}
    {l : List α} (h : ∀ a ∈ l, read (write a) = some (g a)) :
    (l.map write).mapM read = some (l.map g) := by
  induction l with
  | nil => rfl
  | cons a l ih =>
    have hl := ih fun b hb => h b (List.mem_cons_of_mem a hb)
    rw [List.map_cons, List.mapM_cons, h a List.mem_cons_self, hl]
    rfl

/-- If `read` undoes `write`, a list of values is read back, too. -/
theorem mapM_map_self {α β : Type} {write : α → β} {read : β → Option α}
    (h : ∀ a, read (write a) = some a) (l : List α) : (l.map write).mapM read = some l := by
  have hread := mapM_map_of_forall (g := id) (l := l) fun a _ => h a
  rwa [List.map_id] at hread

/-- What `mapM` read from a list was read from its elements. -/
theorem exists_of_mem_mapM {α β : Type} {f : α → Option β} {l : List α} {bs : List β}
    (h : l.mapM f = some bs) {b : β} (hb : b ∈ bs) : ∃ a ∈ l, f a = some b := by
  induction l generalizing bs with
  | nil =>
    cases h
    cases hb
  | cons a l ih =>
    rw [List.mapM_cons] at h
    obtain ⟨b₁, hb₁, h⟩ := Option.bind_eq_some_iff.mp h
    obtain ⟨bs₁, hbs₁, h⟩ := Option.bind_eq_some_iff.mp h
    cases h
    rcases List.mem_cons.mp hb with rfl | hb
    · exact ⟨a, List.mem_cons_self, hb₁⟩
    · obtain ⟨a', ha', hf⟩ := ih hbs₁ hb
      exact ⟨a', List.mem_cons_of_mem a ha', hf⟩

namespace Json

/-! ## Strings -/

/-- `escapeChar` writes a character as itself, or as an escape that `readEscape?` reads back. -/
theorem escapeChar_spec (c : Char) :
    (escapeChar c = [c] ∧ c ≠ '"' ∧ c ≠ '\\' ∧ ¬c.toNat < 0x20) ∨
      ∃ e, escapeChar c = '\\' :: e ∧ ∀ rest, readEscape? (e ++ rest) = some (some [c], rest) := by
  rw [escapeChar]
  split
  · rename_i h
    exact .inr ⟨_, rfl, fun _ => by rw [h]; rfl⟩
  rename_i hquote
  split
  · rename_i h
    exact .inr ⟨_, rfl, fun _ => by rw [h]; rfl⟩
  rename_i hbackslash
  -- The short escapes of control characters.
  iterate 5
    split
    · rename_i h
      exact .inr ⟨_, rfl, fun _ => by rw [h]; rfl⟩
  split
  · -- The other control characters are written as four digits, which name no surrogate.
    rename_i hcontrol
    have hunit : ∀ n < 0x20, Text.numeral? 16
        ['0', '0', Text.lowerHex (n / 16), Text.lowerHex (n % 16)] = some n := by decide
    have hlead : isLeadUnit c.toNat = false := by
      simp only [isLeadUnit, Bool.and_eq_false_iff, decide_eq_false_iff_not]
      omega
    have htrail : isTrailUnit c.toNat = false := by
      simp only [isTrailUnit, Bool.and_eq_false_iff, decide_eq_false_iff_not]
      omega
    refine .inr ⟨_, rfl, fun rest => ?_⟩
    simp [readEscape?, readEscapedUnit?, readUnit?, hunit c.toNat hcontrol, hlead, htrail,
      Char.ofNat_toNat]
  · rename_i hcontrol
    exact .inl ⟨rfl, hquote, hbackslash, hcontrol⟩

/-- `readContent?` reads a character back and goes on with what follows. -/
private theorem readContent?_escapeChar_append (c : Char) (t : Text) :
    readContent? (escapeChar c ++ t) = (readContent? t).map fun r => (r.1.map (c :: ·), r.2) := by
  rcases escapeChar_spec c with ⟨hc, hquote, hbackslash, hcontrol⟩ | ⟨e, hc, hread⟩
  · -- The character stands for itself: it ends no string and begins no escape.
    rw [hc, List.singleton_append, readContent?, if_neg hquote, if_neg hbackslash,
      if_neg hcontrol]
  · -- The reader takes the whole escape, and no step of it is left to `readContent?`.
    have hquote : '\\' ≠ '"' := by decide
    rw [hc, List.cons_append, readContent?, if_neg hquote, if_pos rfl]
    split
    · rename_i h
      rw [hread] at h
      cases h
    · rename_i h
      rw [hread] at h
      cases h
      rfl

/-- `readContent?` reads a text back up to the closing quotation mark. -/
private theorem readContent?_flatMap_escapeChar (t rest : Text) :
    readContent? (t.flatMap escapeChar ++ '"' :: rest) = some (some t, rest) := by
  induction t with
  | nil => rw [List.flatMap_nil, List.nil_append, readContent?, if_pos rfl]
  | cons c cs ih =>
    rw [List.flatMap_cons, List.append_assoc, readContent?_escapeChar_append, ih]
    rfl

/-- What `quote` writes after its opening quotation mark. -/
def quoteTail (s : JsonString) : Text := (quote s).tail

/-- `quote` begins with a quotation mark, and goes on with `quoteTail`. -/
theorem quote_eq_cons (s : JsonString) : quote s = '"' :: quoteTail s := by
  cases s <;> rfl

/-- `readContent?` reads a string back, also one that holds no text. -/
private theorem readContent?_quoteTail_append (s : JsonString) (rest : Text) :
    readContent? (quoteTail s ++ rest) = some (s, rest) := by
  cases s with
  | none =>
    -- Half a surrogate pair is read as no text, and then the end of the string.
    have hescape : readEscape? ("ud800\"".toList ++ rest) = some (none, '"' :: rest) := by
      have hunit : Text.numeral? 16 ['d', '8', '0', '0'] = some 0xd800 := by decide
      have hlead : isLeadUnit 0xd800 = true := by decide
      simp [readEscape?, readEscapedUnit?, readUnit?, hunit, hlead, readTrail?]
    have hquote : '\\' ≠ '"' := by decide
    have htail : quoteTail none ++ rest = '\\' :: ("ud800\"".toList ++ rest) := rfl
    rw [htail, readContent?, if_neg hquote, if_pos rfl]
    split
    · rename_i h
      rw [hescape] at h
      cases h
    · rename_i h
      rw [hescape] at h
      cases h
      rw [readContent?, if_pos rfl]
      rfl
  | some t =>
    have htail : quoteTail (some t) ++ rest = t.flatMap escapeChar ++ '"' :: rest := by
      simp [quoteTail, quote]
    rw [htail, readContent?_flatMap_escapeChar]

/-! ## Documents -/

/-- A document without numbers. -/
inductive NumberFree : Json → Prop where
  | null : NumberFree .null
  | bool (b : Bool) : NumberFree (.bool b)
  | string (s : JsonString) : NumberFree (.string s)
  | array {items : List Json} (h : ∀ j ∈ items, NumberFree j) : NumberFree (.array items)
  | object {members : List (JsonString × Json)} (h : ∀ m ∈ members, NumberFree m.2) :
    NumberFree (.object members)

/-- `readValue?` reads a document back from what `compact` writes it as, with any text after it. -/
def ReadsBack (j : Json) : Prop :=
  ∀ fuel rest, 2 * (compact j).length ≤ fuel →
    readValue? fuel (compact j ++ rest) = some (j, rest)

/-- `skipSpace` stops before a character that is no blank. -/
private theorem skipSpace_cons {c : Char} (h : isSpace c = false) (cs : Text) :
    skipSpace (c :: cs) = c :: cs := List.dropWhile_cons_of_neg (by simp [h])

/-- What `compact` begins a document with is neither a blank nor a closing bracket. -/
private theorem exists_compact_eq_cons {j : Json} (h : j.NumberFree) :
    ∃ c cs, compact j = c :: cs ∧ isSpace c = false ∧ c ≠ ']' := by
  cases h with
  | null => exact ⟨'n', _, rfl, by decide, by decide⟩
  | bool b =>
    cases b
    · exact ⟨'f', _, rfl, by decide, by decide⟩
    · exact ⟨'t', _, rfl, by decide, by decide⟩
  | string s => exact ⟨'"', _, by rw [compact, quote_eq_cons], by decide, by decide⟩
  | array _ => exact ⟨'[', _, by rw [compact]; rfl, by decide, by decide⟩
  | object _ => exact ⟨'{', _, by rw [compact]; rfl, by decide, by decide⟩

/-- `compactItems` puts a comma between two items. -/
theorem compactItems_cons_cons (j k : Json) (js : List Json) :
    compactItems (j :: k :: js) = compact j ++ ',' :: compactItems (k :: js) := by
  rw [compactItems]
  exact List.cons_ne_nil k js

/-- `compactMembers` puts a comma between two members. -/
theorem compactMembers_cons_cons (m n : JsonString × Json) (ms : List (JsonString × Json)) :
    compactMembers (m :: n :: ms) =
      quote m.1 ++ ':' :: compact m.2 ++ ',' :: compactMembers (n :: ms) := by
  rw [compactMembers]
  exact List.cons_ne_nil n ms

/-- Items that are read back one by one are read back as an array by `readItems?`. -/
private theorem readItems?_compactItems {items : List Json} (hne : items ≠ [])
    (h : ∀ j ∈ items, ReadsBack j) (rest : Text) (fuel : Nat)
    (hfuel : 2 * (compactItems items).length < fuel) :
    readItems? fuel (compactItems items ++ ']' :: rest) = some (items, rest) := by
  induction items generalizing fuel with
  | nil => exact absurd rfl hne
  | cons j js ih =>
    obtain ⟨n, rfl⟩ : ∃ n, fuel = n + 1 := ⟨fuel - 1, by omega⟩
    have hj := h j List.mem_cons_self
    cases js with
    | nil =>
      rw [compactItems] at hfuel ⊢
      have hclose : skipSpace (']' :: rest) = ']' :: rest := skipSpace_cons (by decide) rest
      -- The reader of the item stops at the closing bracket.
      rw [readItems?, hj n _ (by omega)]
      simp only [Option.bind_eq_bind, Option.bind_some, hclose]
    | cons k ks =>
      rw [compactItems_cons_cons] at hfuel ⊢
      rw [List.length_append, List.length_cons] at hfuel
      have hcomma : ∀ t, skipSpace (',' :: t) = ',' :: t := skipSpace_cons (by decide)
      have hks := ih (List.cons_ne_nil k ks) (fun i hi => h i (List.mem_cons_of_mem j hi)) n
        (by omega)
      -- The reader of the item stops at the comma, and the other items have one step less.
      rw [readItems?, List.append_assoc, List.cons_append, hj n _ (by omega)]
      simp only [Option.bind_eq_bind, Option.bind_some, hcomma, hks, Option.map_some]

/-- Members of which the values are read back are read back as an object by `readMembers?`. -/
private theorem readMembers?_compactMembers {members : List (JsonString × Json)}
    (hne : members ≠ []) (h : ∀ m ∈ members, ReadsBack m.2) (rest : Text) (fuel : Nat)
    (hfuel : 2 * (compactMembers members).length < fuel) :
    readMembers? fuel (compactMembers members ++ '}' :: rest) = some (members, rest) := by
  have hquote : ∀ t, skipSpace ('"' :: t) = '"' :: t := skipSpace_cons (by decide)
  have hcolon : ∀ t, skipSpace (':' :: t) = ':' :: t := skipSpace_cons (by decide)
  induction members generalizing fuel with
  | nil => exact absurd rfl hne
  | cons m ms ih =>
    obtain ⟨n, rfl⟩ : ∃ n, fuel = n + 1 := ⟨fuel - 1, by omega⟩
    have hm := h m List.mem_cons_self
    cases ms with
    | nil =>
      rw [compactMembers, quote_eq_cons] at hfuel ⊢
      simp only [List.length_append, List.length_cons] at hfuel
      have hclose : skipSpace ('}' :: rest) = '}' :: rest := skipSpace_cons (by decide) rest
      -- As an item is, with a name and a colon before the value.
      simp only [readMembers?, List.append_assoc, List.cons_append, hquote, hcolon,
        Option.bind_eq_bind, Option.bind_some, readContent?_quoteTail_append]
      rw [hm n _ (by omega)]
      simp only [Option.bind_some, hclose]
    | cons k ks =>
      rw [compactMembers_cons_cons, quote_eq_cons] at hfuel ⊢
      simp only [List.length_append, List.length_cons] at hfuel
      have hcomma : ∀ t, skipSpace (',' :: t) = ',' :: t := skipSpace_cons (by decide)
      have hks := ih (List.cons_ne_nil k ks) (fun i hi => h i (List.mem_cons_of_mem m hi)) n
        (by omega)
      simp only [readMembers?, List.append_assoc, List.cons_append, hquote, hcolon,
        Option.bind_eq_bind, Option.bind_some, readContent?_quoteTail_append]
      rw [hm n _ (by omega)]
      simp only [Option.bind_some, hcomma, hks, Option.map_some]

/-- The `fuel` that a document is read with is not zero. -/
private theorem exists_fuel {j : Json} (h : j.NumberFree) {fuel : Nat}
    (hfuel : 2 * (compact j).length ≤ fuel) : ∃ n, fuel = n + 1 := by
  obtain ⟨c, cs, hcs, -, -⟩ := exists_compact_eq_cons h
  rw [hcs, List.length_cons] at hfuel
  exact ⟨fuel - 1, by omega⟩

/-- What `compactItems` begins with is neither a blank nor a closing bracket. -/
private theorem exists_compactItems_eq_cons {j : Json} (h : j.NumberFree) (js : List Json) :
    ∃ c cs, compactItems (j :: js) = c :: cs ∧ isSpace c = false ∧ c ≠ ']' := by
  obtain ⟨c, cs, hcs, hspace, hclose⟩ := exists_compact_eq_cons h
  cases js with
  | nil => exact ⟨c, cs, by rw [compactItems, hcs], hspace, hclose⟩
  | cons k ks =>
    refine ⟨c, cs ++ ',' :: compactItems (k :: ks), ?_, hspace, hclose⟩
    rw [compactItems_cons_cons, hcs, List.cons_append]

/-- `compactMembers` begins with the name of the first member. -/
private theorem exists_compactMembers_eq_cons (m : JsonString × Json)
    (ms : List (JsonString × Json)) : ∃ cs, compactMembers (m :: ms) = '"' :: cs := by
  cases ms with
  | nil => exact ⟨_, by rw [compactMembers, quote_eq_cons]; rfl⟩
  | cons n ns => exact ⟨_, by rw [compactMembers_cons_cons, quote_eq_cons]; rfl⟩

/-- A document that is `NumberFree` is read back, with any text after it. -/
private theorem readsBack_of_numberFree {j : Json} (h : j.NumberFree) : ReadsBack j := by
  -- By induction on the nesting.  The parts of a container are read with one step less than it,
  -- which its brackets pay for.
  induction h with
  | null =>
    intro fuel rest hfuel
    -- The literals are compared letter by letter, which is evaluated.
    obtain ⟨n, rfl⟩ := exists_fuel .null hfuel
    rfl
  | bool b =>
    intro fuel rest hfuel
    obtain ⟨n, rfl⟩ := exists_fuel (.bool b) hfuel
    cases b <;> rfl
  | string s =>
    intro fuel rest hfuel
    obtain ⟨n, rfl⟩ := exists_fuel (.string s) hfuel
    have hquote : ∀ t, skipSpace ('"' :: t) = '"' :: t := skipSpace_cons (by decide)
    rw [compact, quote_eq_cons, List.cons_append, readValue?, hquote]
    simp only [readContent?_quoteTail_append, Option.map_some]
  | @array items h ih =>
    intro fuel rest hfuel
    obtain ⟨n, rfl⟩ := exists_fuel (.array h) hfuel
    cases items with
    | nil => rfl
    | cons j js =>
      obtain ⟨c, cs, hcs, hspace, hclose⟩ :=
        exists_compactItems_eq_cons (h j List.mem_cons_self) js
      have hopen : ∀ t, skipSpace ('[' :: t) = '[' :: t := skipSpace_cons (by decide)
      have hskip : ∀ t, skipSpace (c :: t) = c :: t := skipSpace_cons hspace
      have htext : compact (.array (j :: js)) ++ rest =
          '[' :: (compactItems (j :: js) ++ ']' :: rest) := by
        simp [compact]
      -- The brackets are two characters, so that the items are left more steps than they need.
      rw [compact, List.length_append, List.length_cons] at hfuel
      have hitems := readItems?_compactItems (List.cons_ne_nil j js) ih rest n (by omega)
      rw [htext, readValue?, hopen]
      simp only
      rw [hcs, List.cons_append, hskip, ← List.cons_append, ← hcs]
      -- The array is not empty: what follows the bracket is the first item.
      split
      · rename_i heq
        rw [hcs] at heq
        exact absurd (List.cons.inj heq).1 hclose
      · rw [hitems, Option.map_some]
  | @object members h ih =>
    intro fuel rest hfuel
    obtain ⟨n, rfl⟩ := exists_fuel (.object h) hfuel
    cases members with
    | nil => rfl
    -- An object is read as an array is, and its first character is known: the quotation mark of a
    -- name.
    | cons m ms =>
      obtain ⟨cs, hcs⟩ := exists_compactMembers_eq_cons m ms
      have hopen : ∀ t, skipSpace ('{' :: t) = '{' :: t := skipSpace_cons (by decide)
      have hskip : ∀ t, skipSpace ('"' :: t) = '"' :: t := skipSpace_cons (by decide)
      have htext : compact (.object (m :: ms)) ++ rest =
          '{' :: (compactMembers (m :: ms) ++ '}' :: rest) := by
        simp [compact]
      rw [compact, List.length_append, List.length_cons] at hfuel
      have hmembers := readMembers?_compactMembers (List.cons_ne_nil m ms) ih rest n (by omega)
      -- Nor is the object: what follows the brace is the first name.
      rw [hcs, List.cons_append] at hmembers
      rw [htext, readValue?, hopen, hcs, List.cons_append]
      simp only [hskip]
      split
      · rename_i heq
        cases heq
      · rw [hmembers, Option.map_some]

/-- `read?` reads a document without numbers back from what `compact` writes it as. -/
theorem read?_compact {j : Json} (h : j.NumberFree) : read? (compact j) = some j := by
  have hread := readsBack_of_numberFree h (2 * (compact j).length + 1) [] (by omega)
  -- Nothing follows the document, so nothing is left over after it.
  rw [List.append_nil] at hread
  rw [read?, hread]
  rfl

/-! ## Parts of a document -/

@[simp] theorem asText?_text (t : Text) : (text t).asText? = some t := rfl

/-- `asTexts?` reads a list of texts back from its document. -/
theorem asTexts?_texts (ts : List Text) : (texts ts).asTexts? = some ts := by
  rw [texts, asTexts?, asArray?, Option.bind_eq_bind, Option.bind_some,
    mapM_map_self asText?_text]

/-- `namedMembers?` reads back members that are named by texts. -/
theorem namedMembers?_fields (ms : List (Text × Json)) :
    namedMembers? (ms.map fun m => (some m.1, m.2)) = some ms := by
  refine mapM_map_self ?_ ms
  exact fun _ => rfl

/-- An object of `fields` has no numbers but those of its members. -/
theorem NumberFree.fields {ms : List (Text × Json)} (h : ∀ m ∈ ms, NumberFree m.2) :
    NumberFree (.fields ms) := by
  refine .object fun named hnamed => ?_
  obtain ⟨m, hm, rfl⟩ := List.mem_map.mp hnamed
  exact h m hm

/-- An array of the documents of some values has no numbers but those of the documents. -/
theorem NumberFree.array_map {α : Type} {f : α → Json} {l : List α}
    (h : ∀ a ∈ l, NumberFree (f a)) : NumberFree (.array (l.map f)) := by
  refine .array fun j hj => ?_
  obtain ⟨a, ha, rfl⟩ := List.mem_map.mp hj
  exact h a ha

end Json

end Facets
