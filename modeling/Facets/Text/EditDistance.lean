import Facets.Text.Basic

/-!
# Edit distance

`editDistance s t` is the least number of single-character insertions, deletions and
substitutions that turn `s` into `t`, computed row by row: the row of a beginning `s₀` of `s`
holds the distances from `s₀` to every beginning of `t`, and `nextRow` takes the row of `s₀`
to that of `s₀` with one more character.
-/

namespace Facets.Text

/-- The rest of the row after a character `c`, from the distance `left` just found, the
    remaining characters of the target, and the entries of the row above: `diagonal` belongs
    to the target up to here, and the list to the beginnings that follow. -/
def rowAfter (c : Char) (left diagonal : Nat) : Text → List Nat → List Nat
  | t :: ts, above :: row =>
    let here := min (min (left + 1) (above + 1)) (diagonal + if c = t then 0 else 1)
    here :: rowAfter c here above ts row
  | _, _ => []

/-- The row of distances after one more character `c` of the source. -/
def nextRow (target : Text) (row : List Nat) (c : Char) : List Nat :=
  match row with
  | [] => []
  | diagonal :: row => (diagonal + 1) :: rowAfter c (diagonal + 1) diagonal target row

/-- The row of the empty source: each beginning of the target costs its length. -/
def firstRow (target : Text) : List Nat := List.range (target.length + 1)

/-- The least number of insertions, deletions and substitutions between two texts. -/
def editDistance (source target : Text) : Nat :=
  (source.foldl (nextRow target) (firstRow target)).getLastD 0

end Facets.Text
