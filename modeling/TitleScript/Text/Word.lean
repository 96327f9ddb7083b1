import TitleScript.Text.Segmenter
import TitleScript.Text.Word.Class

/-!
# Words and what stands between them

A text falls into pieces of which the words are some: the others are single punctuation marks,
runs of spaces, line ends. The rules are the word boundaries of Unicode. A mark, a format
character or a joiner belongs to the character before it and is looked through by every rule.
Punctuation inside a word or a number needs the right neighbour on both sides, so a piece goes on
over it only when the characters still to come provide that neighbour.

A pictograph after a joiner belongs to the piece of the joiner, whatever that piece is, and counts
as the awaited neighbour.

## Main definitions

* `WordState` — what the rules remember of a piece
* `Text.wordPieces` — the pieces of a text
-/

namespace TitleScript

/-- How the piece so far ends, characters that the rules look through apart. -/
inductive WordEnd
  | letter
  | hebrewLetter
  | numeric
  | katakana
  | connector
  | space
  /-- A regional indicator without a partner. -/
  | regional
  | carriageReturn
  /-- A line end that is complete. -/
  | line
  /-- A Hebrew letter and a single quote, which stays even when no letter follows. -/
  | hebrewQuote
  /-- Punctuation that a letter will follow. -/
  | betweenLetters
  /-- Punctuation that a digit will follow. -/
  | betweenNumbers
  /-- A double quote that a Hebrew letter will follow. -/
  | betweenHebrew
  /-- Anything that only transparent characters can follow. -/
  | complete
deriving DecidableEq, Repr

/-- What the rules remember of a piece: how it ends, and whether its last character is a joiner. -/
structure WordState where
  ending : WordEnd
  joiner : Bool

namespace WordState

/-- How a piece of one character of the class ends. -/
def firstEnding : WordClass → WordEnd
  | .letter => .letter
  | .hebrewLetter => .hebrewLetter
  | .numeric => .numeric
  | .katakana => .katakana
  | .connector => .connector
  | .space => .space
  | .regional => .regional
  | .carriageReturn => .carriageReturn
  | .lineFeed | .newline => .line
  | _ => .complete

/-- Whether the characters to come begin, after transparent ones, with a wanted class. `joiner`
tells whether the character just passed is a joiner. -/
def follows (wanted : WordClass → Bool) : (joiner : Bool) → List Char → Bool
  | _, [] => false
  | joiner, d :: ds =>
    if (WordClass.ofChar d).isTransparent then
      follows wanted (WordClass.ofChar d == .joiner) ds
    else (joiner && ClusterClass.pictographs.contains d) || wanted (.ofChar d)

/-- The ending after punctuation, provided a wanted class follows it. -/
def across (wanted : WordClass → Bool) (rest : List Char) (e : WordEnd) : Option WordEnd :=
  if follows wanted false rest then some e else none

/-- The ending after a character of class `k` that is not transparent, or `none` at a boundary. -/
def nextEnding (e : WordEnd) (k : WordClass) (rest : List Char) : Option WordEnd :=
  match e, k with
  | .letter, .letter | .hebrewLetter, .letter => some .letter
  | .letter, .hebrewLetter | .hebrewLetter, .hebrewLetter => some .hebrewLetter
  | .letter, .numeric | .hebrewLetter, .numeric => some .numeric
  | .letter, .connector | .hebrewLetter, .connector => some .connector
  | .hebrewLetter, .singleQuote => some .hebrewQuote
  | .hebrewLetter, .doubleQuote => across (· == .hebrewLetter) rest .betweenHebrew
  | .letter, .singleQuote => across WordClass.isLetter rest .betweenLetters
  | .letter, .midLetter | .hebrewLetter, .midLetter =>
    across WordClass.isLetter rest .betweenLetters
  | .letter, .midNumberOrLetter | .hebrewLetter, .midNumberOrLetter =>
    across WordClass.isLetter rest .betweenLetters
  | .numeric, .numeric => some .numeric
  | .numeric, .letter => some .letter
  | .numeric, .hebrewLetter => some .hebrewLetter
  | .numeric, .connector => some .connector
  | .numeric, .midNumber | .numeric, .midNumberOrLetter | .numeric, .singleQuote =>
    across (· == .numeric) rest .betweenNumbers
  | .katakana, .katakana => some .katakana
  | .katakana, .connector => some .connector
  | .connector, .connector => some .connector
  | .connector, .letter => some .letter
  | .connector, .hebrewLetter => some .hebrewLetter
  | .connector, .numeric => some .numeric
  | .connector, .katakana => some .katakana
  | .regional, .regional => some .complete
  | .space, .space => some .space
  | .hebrewQuote, .letter | .betweenLetters, .letter => some .letter
  | .hebrewQuote, .hebrewLetter | .betweenLetters, .hebrewLetter => some .hebrewLetter
  | .betweenNumbers, .numeric => some .numeric
  | .betweenHebrew, .hebrewLetter => some .hebrewLetter
  | _, _ => none

/-- The ending after a transparent character: spaces run together only when they touch. -/
def pastTransparent : WordEnd → WordEnd
  | .space => .complete
  | e => e

/-- The state after one more character, or `none` at a boundary. -/
def advance (s : WordState) (c : Char) (rest : List Char) : Option WordState :=
  match s.ending with
  | .carriageReturn => if WordClass.ofChar c = .lineFeed then some ⟨.line, false⟩ else none
  | .line => none
  | e =>
    if (WordClass.ofChar c).isTransparent then
      some ⟨pastTransparent e, WordClass.ofChar c == .joiner⟩
    else if s.joiner && ClusterClass.pictographs.contains c then some ⟨.complete, false⟩
    else (nextEnding e (.ofChar c) rest).map (⟨·, false⟩)

end WordState

namespace Text

/-- The rule for cutting a text at word boundaries. -/
def wordSegmenter : Segmenter WordState where
  start c := ⟨WordState.firstEnding (.ofChar c), WordClass.ofChar c == .joiner⟩
  advance := WordState.advance

/-- The pieces of a text between word boundaries, in order. -/
def wordPieces (cs : List Char) : List (List Char) :=
  wordSegmenter.pieces cs

@[simp]
theorem flatten_wordPieces (cs : List Char) : (wordPieces cs).flatten = cs :=
  wordSegmenter.flatten_pieces cs

-- Punctuation stays inside a word or a number, and ends it at either side.
example : (wordPieces "don't 3.5x  a.".toList).map List.length = [5, 1, 4, 2, 1, 1] := by
  decide +kernel

end Text

end TitleScript
