import TitleScript.Function.Context
import TitleScript.Text.Alphanumeric
import TitleScript.Text.Case.Mapping
import TitleScript.Text.Cluster
import TitleScript.Text.Replacement
import TitleScript.Text.Word

/-!
# Functions on text

Lengths and positions count user-perceived characters. Functions that can produce more text than
they are given are limited: a width or a number of copies by `maxCount`, copies and replacements
by `maxResultBytes`.

## Main definitions

* `Textual.equal`, `equalFolded`, `longer` — comparing texts
* `Textual.left`, `right`, `middle`, `insert` — taking a text apart
* `Textual.upper`, `lower`, `capitalize` — case
* `Textual.pad`, `copies`, `replace`, `initials` — making text
-/

namespace TitleScript

namespace Textual

open Text

/-! ### Comparing -/

/-- The first two arguments are the same text. -/
def equal (args : List Outcome) : Outcome :=
  .ofBool (argumentText args 0 == argumentText args 1)

/-- The first two arguments are the same text but for case. -/
def equalFolded (args : List Outcome) : Outcome :=
  .ofBool (fold (argumentText args 0) == fold (argumentText args 1))

/-- The first argument has more characters than the second. -/
def longer (args : List Outcome) : Outcome :=
  .ofBool (Text.length (argumentText args 1) < Text.length (argumentText args 0))

/-- The number of characters. -/
def length (args : List Outcome) : Outcome :=
  .literal (writeNat (Text.length (argumentText args 0)))

/-! ### Taking apart -/

/-- The clusters of the argument at a position. -/
def argumentClusters (args : List Outcome) (i : Nat) : List (List Char) :=
  clusters (argumentText args i).toList

/-- Clusters put together to an outcome. -/
def ofClusters (pieces : List (List Char)) : Outcome :=
  .literal (String.ofList pieces.flatten)

/-- The first characters of a text. -/
def left (args : List Outcome) : Outcome :=
  ofClusters ((argumentClusters args 0).take (argumentCount args 1))

/-- The last characters of a text. -/
def right (args : List Outcome) : Outcome :=
  let pieces := argumentClusters args 0
  ofClusters (pieces.drop (pieces.length - argumentCount args 1))

/-- The characters from one position to another, counted from one. -/
def middle (args : List Outcome) : Outcome :=
  let first := max (argumentCount args 1) 1
  let last := argumentCount args 2
  if last < first then .neutral
  else ofClusters (((argumentClusters args 0).drop (first - 1)).take (last - first + 1))

/-- The second text put into the first behind as many characters as the third argument says. -/
def insert (args : List Outcome) : Outcome :=
  let pieces := argumentClusters args 0
  let n := argumentCount args 2
  ofClusters (pieces.take n ++ [(argumentText args 1).toList] ++ pieces.drop n)

/-- A text without the blanks at its ends. -/
def trim (args : List Outcome) : Outcome :=
  .literal (Text.trim (argumentText args 0))

/-! ### Case -/

/-- A text in upper case. -/
def upper (args : List Outcome) : Outcome :=
  .literal (Text.upper (argumentText args 0))

/-- A text in lower case. -/
def lower (args : List Outcome) : Outcome :=
  .literal (Text.lower (argumentText args 0))

/-- A piece of a text with its first character in upper case and the others in lower case. -/
def capitalizePiece (piece : List Char) : List Char :=
  match clusters piece with
  | [] => []
  | first :: rest => upperChars first ++ lowerChars rest.flatten

/-- A text with every word capitalized. -/
def capitalize (args : List Outcome) : Outcome :=
  .literal (String.ofList ((wordPieces (argumentText args 0).toList).flatMap capitalizePiece))

/-! ### Making text -/

/-- A text followed by a character as often as its length falls short of a width. The character
is the first of the third argument, or a space. -/
def pad (args : List Outcome) : Outcome :=
  let text := argumentText args 0
  let fill := (argumentText args 2).toList.headD ' '
  .literal (text ++ String.ofList
    (List.replicate (argumentCount args 1 - Text.length text) fill))

/-- Copies of a text, as many as were asked for and fit. -/
def copies (args : List Outcome) : Outcome :=
  let text := argumentText args 0
  .literal (String.join (List.replicate
    (min (argumentCount args 1) (maxResultBytes / text.utf8ByteSize)) text))

/-- How many occurrences of a pattern may be replaced in a text: all of them if that does not
make it longer, and otherwise as many as fit. -/
def replacementLimit (pattern replacement text : List Char) : Nat :=
  let growth := byteLength replacement - byteLength pattern
  if growth = 0 then text.length else (maxResultBytes - byteLength text) / growth

/-- A text with one pattern replaced. An empty pattern occurs nowhere. -/
def replacePattern (pattern replacement text : List Char) : List Char :=
  if pattern = [] then text
  else replaceFirst (replacementLimit pattern replacement text) pattern replacement text

/-- A text with one pattern after another replaced; a pattern without a replacement is left
out. -/
def replacePairs : List Outcome → List Char → List Char
  | pattern :: replacement :: pairs, text =>
    replacePairs pairs (replacePattern pattern.text.toList replacement.text.toList text)
  | _, text => text

/-- The first argument with the pairs behind it replaced in turn. -/
def replace (args : List Outcome) : Outcome :=
  .literal (String.ofList (replacePairs args.tail (argumentText args 0).toList))

/-- The first character of every word that begins with a letter or a digit. -/
def initials (args : List Outcome) : Outcome :=
  .literal (String.ofList (((words (argumentText args 0).toList).filter
    fun w => w.head?.any isAlphanumeric).flatMap fun w => (clusters w).headD []))

/-- A line end. -/
def lineBreak : Outcome := .literal "\r\n"

/-- As many tabs as the argument says, or one. -/
def tab (args : List Outcome) : Outcome :=
  .literal (String.ofList
    (List.replicate (if args.isEmpty then 1 else argumentCount args 0) '\t'))

/-- The character with the given code point, if there is one other than the null character. -/
def char (args : List Outcome) : Outcome :=
  let code := (argumentNumber args 0).toNat
  if 0 < code ∧ code.isValidChar then .literal (String.singleton (Char.ofNat code)) else .neutral

end Textual

end TitleScript
