import TitleScript.Text.Bytes

/-!
# Finding and replacing parts of a text

The occurrences of a pattern are found from left to right and do not overlap. At most a given
number of them are replaced, and the replacement is not searched again.

## Main definitions

* `Text.occursIn` — whether a pattern occurs in a text
* `Text.replaceFrom` — the pass over the text
* `Text.replaceFirst` — a text with the first occurrences of a pattern replaced
-/

namespace TitleScript

namespace Text

/-- Whether the pattern occurs somewhere in the text. -/
def occursIn (pattern : List Char) : List Char → Bool
  | [] => pattern.isEmpty
  | c :: cs => pattern.isPrefixOf (c :: cs) || occursIn pattern cs

/-- Replace `pattern` in a text of which `skip` characters belong to an occurrence already
replaced; `limit` occurrences may still be, and `done` is the result so far, last character
first. -/
def replaceFrom (pattern replacement : List Char) : (limit skip : Nat) → (done cs : List Char) →
    List Char
  | _, _, done, [] => done.reverse
  | limit, skip + 1, done, _ :: cs => replaceFrom pattern replacement limit skip done cs
  | 0, 0, done, c :: cs => done.reverse ++ (c :: cs)
  | limit + 1, 0, done, c :: cs =>
    if pattern.isPrefixOf (c :: cs) then
      replaceFrom pattern replacement limit (pattern.length - 1) (replacement.reverseAux done) cs
    else replaceFrom pattern replacement (limit + 1) 0 (c :: done) cs

/-- The text with the first `limit` occurrences of a pattern replaced. -/
def replaceFirst (limit : Nat) (pattern replacement cs : List Char) : List Char :=
  replaceFrom pattern replacement limit 0 [] cs

-- Occurrences do not overlap, and what is put in is not searched.
example : replaceFirst 9 ['a', 'a'] ['a'] ['a', 'a', 'a', 'b', 'a', 'a']
    = ['a', 'a', 'b', 'a'] := by decide

end Text

end TitleScript
