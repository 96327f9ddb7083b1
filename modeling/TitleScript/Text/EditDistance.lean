/-!
# Edit distance

The distance between two names is the least number of single-character insertions, deletions and
replacements that turn one into the other. It is computed row by row: the row of a beginning of
the first name holds its distance to every beginning of the second.

## Main definitions

* `Text.nextRow` — the row after one more character
* `Text.editDistance` — the distance
-/

namespace TitleScript

namespace Text

/-- The entries of the next row, given the entry to the left, the entry diagonally above and the
entries above. -/
def rowFrom (x : Char) : (left diagonal : Nat) → (above : List Nat) → List Char → List Nat
  | left, diagonal, up :: above, y :: ys =>
    let entry := min (min (left + 1) (up + 1)) (if x = y then diagonal else diagonal + 1)
    entry :: rowFrom x entry up above ys
  | _, _, _, _ => []

/-- The row after one more character `x` of the first name. -/
def nextRow (ys : List Char) (row : List Nat) (x : Char) : List Nat :=
  match row with
  | [] => []
  | diagonal :: above => (diagonal + 1) :: rowFrom x (diagonal + 1) diagonal above ys

/-- The edit distance of two texts, in characters. -/
def editDistance (xs ys : List Char) : Nat :=
  (xs.foldl (nextRow ys) (List.range (ys.length + 1))).getLastD 0

example : editDistance "titel".toList "title".toList = 2
    ∧ editDistance "kitten".toList "sitting".toList = 3
    ∧ editDistance [] "abc".toList = 3 ∧ editDistance "abc".toList [] = 3 := by decide +kernel

end Text

end TitleScript
