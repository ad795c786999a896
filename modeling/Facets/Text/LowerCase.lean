import Facets.Text.CaseTable

/-!
# Lower case

`lowerCase` is the lower-casing of Unicode: letter by letter, with two rules of its own.
Capital I with a dot above becomes the two characters `i` and combining dot above, and a
capital sigma at the end of a word becomes the final form of the small sigma.  A word ends
where a cased letter stands before and none after, characters that case ignores left out.
-/

namespace Facets.Text

/-- Whether a code point lies in one of some inclusive ranges. -/
def inRanges (ranges : List (Nat × Nat)) (n : Nat) : Bool :=
  ranges.any fun r => r.1 ≤ n && n ≤ r.2

/-- The Unicode property `Cased`. -/
def isCased (c : Char) : Bool := inRanges casedRanges c.toNat

/-- The Unicode property `Case_Ignorable`. -/
def isCaseIgnorable (c : Char) : Bool := inRanges caseIgnorableRanges c.toNat

/-- The lower case of one letter out of context. -/
def lowerLetter (c : Char) : Text :=
  if c = 'İ' then ['i', '\u0307']
  else match lowerCaseRuns.find? (·.covers c.toNat) with
    | some run => [Char.ofNat (c.toNat + run.shift).toNat]
    | none => [c]

/-- Whether the first character that case does not ignore is a cased one. -/
def startsCased (t : Text) : Bool :=
  match t.dropWhile isCaseIgnorable with
  | c :: _ => isCased c
  | [] => false

/-- The lower case of what follows `before`, whose characters stand in reverse. -/
def lowerCaseAfter (before : Text) : Text → Text
  | [] => []
  | c :: cs =>
    let low :=
      if c = 'Σ' then
        -- The one letter whose lower case depends on its neighbours.
        if startsCased before && !startsCased cs then ['ς'] else ['σ']
      else lowerLetter c
    low ++ lowerCaseAfter (c :: before) cs

/-- A text in lower case. -/
def lowerCase (t : Text) : Text := lowerCaseAfter [] t

end Facets.Text
