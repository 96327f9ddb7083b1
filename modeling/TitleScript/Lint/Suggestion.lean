import TitleScript.Text.EditDistance

/-!
# Suggestions for unknown names

A name that is not known may be a slip. The suggestions are the known names at a small edit
distance, nearest first, and among equally near ones in the order in which they are listed. Short
names have so many neighbours that only the distance of one counts for them.

## Main definitions

* `suggestions` — the suggestions for a name
* `suggestionText` — their wording
-/

namespace TitleScript

/-- The greatest distance at which a known name is suggested. -/
def maxDistance (name : String) : Nat :=
  if name.length ≤ 3 then 1 else 2

/-- The candidates within reach of a name, with their distances, in the order given. A name that
is known is no slip, so distance zero is out of reach. -/
def nearby (name : String) (available : List String) : List (Nat × String) :=
  (available.map fun candidate =>
    (Text.editDistance name.toList candidate.toList, candidate)).filter fun entry =>
      0 < entry.1 && entry.1 ≤ maxDistance name

/-- The list without the elements that repeat the one directly before them. -/
def dropRepeats : List String → List String
  | a :: b :: rest => if a = b then dropRepeats (b :: rest) else a :: dropRepeats (b :: rest)
  | l => l

/-- At most three known names to suggest instead of an unknown one. -/
def suggestions (name : String) (available : List String) : List String :=
  (dropRepeats (((nearby name available).mergeSort fun a b => a.1 ≤ b.1).map (·.2))).take 3

/-- Suggestions as the end of a sentence, each between quotes and written as in a script. -/
def suggestionText (write : String → String) (names : List String) : String :=
  if names.isEmpty then ""
  else ", did you mean " ++ " or ".intercalate (names.map fun n => "'" ++ write n ++ "'") ++ "?"

end TitleScript
