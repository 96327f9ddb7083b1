import TitleScript.Text.Case.Class
import TitleScript.Text.Case.Supplement
import TitleScript.Text.Case.Table

/-!
# Case mappings of a text

Upper case and folding treat every character alone. Lower case does so for every letter but one:
a capital sigma becomes the final form when a cased letter comes before it and none comes after
it, where the search on either side passes over case-ignorable characters. A mark or an apostrophe
between the letters of a word therefore does not end the word.

Two sets of letters are in use. Names are compared by the settled letters, so that a name keeps
the form it has been stored under. Texts are mapped with the letters of the next edition as well.

## Main definitions

* `LowerCase` — what a lower case depends on
* `LowerCase.ofNames`, `LowerCase.ofTexts` — the lower case of names and that of texts
* `LowerCase.chars`, `LowerCase.text` — a text in lower case
* `Text.lowerChars`, `Text.lower` — lower case with the letters of texts
* `Text.upperChars`, `Text.upper` — upper case
* `Text.foldChars`, `Text.fold` — the form under which case differences disappear
-/

namespace TitleScript

open Text

/-- What a lower case depends on: the image of each letter alone, the letters that have a case,
and the characters that do not part them from a sigma. -/
structure LowerCase where
  image : Char → List Char
  isCased : Char → Bool
  isIgnorable : Char → Bool

namespace LowerCase

/-- The lower case under which names are compared. -/
def ofNames : LowerCase where
  image := lowerMap.image
  isCased := casedLetters.contains
  isIgnorable := caseIgnorables.contains

/-- The lower case of texts. -/
def ofTexts : LowerCase where
  image := lowerSupplement.imageOver lowerMap
  isCased c := casedSupplement.contains c || casedLetters.contains c
  isIgnorable c := ignorableSupplement.contains c || caseIgnorables.contains c

/-! ### Lower case of a text

`charsFrom` carries the one bit of context that the characters already read leave behind; the
characters still to come are at hand. -/

/-- Whether the first character that is not case-ignorable is a cased letter. -/
def startsCased (l : LowerCase) (cs : List Char) : Bool :=
  (cs.dropWhile l.isIgnorable).head?.any l.isCased

/-- Whether a cased letter lies behind, once `c` has been read. -/
def casedAfter (l : LowerCase) (cased : Bool) (c : Char) : Bool :=
  if l.isIgnorable c then cased else l.isCased c

/-- The lower case of `c`, with `cased` telling of the letters before it and `rest` following. -/
def imageAt (l : LowerCase) (cased : Bool) (c : Char) (rest : List Char) : List Char :=
  if c == 'Σ' && cased && !l.startsCased rest then ['ς'] else l.image c

/-- Lower case of a text whose letters before are told by `cased`; `done` is the result so far,
last character first. -/
def charsFrom (l : LowerCase) : (cased : Bool) → (done cs : List Char) → List Char
  | _, done, [] => done.reverse
  | cased, done, c :: cs =>
    l.charsFrom (l.casedAfter cased c) ((l.imageAt cased c cs).reverseAux done) cs

/-- A text in lower case, by characters. -/
def chars (l : LowerCase) (cs : List Char) : List Char :=
  l.charsFrom false [] cs

/-- A text in lower case. -/
def text (l : LowerCase) (s : String) : String :=
  String.ofList (l.chars s.toList)

variable (l : LowerCase)

theorem charsFrom_eq (cased : Bool) (done cs : List Char) :
    l.charsFrom cased done cs = done.reverse ++ l.charsFrom cased [] cs := by
  induction cs generalizing cased done with
  | nil => simp [charsFrom]
  | cons c cs ih =>
    rw [charsFrom, charsFrom, ih, ih _ ((l.imageAt cased c cs).reverseAux [])]
    simp [List.reverseAux_eq]

theorem charsFrom_cons (cased : Bool) (c : Char) (cs : List Char) :
    l.charsFrom cased [] (c :: cs)
      = l.imageAt cased c cs ++ l.charsFrom (l.casedAfter cased c) [] cs := by
  rw [charsFrom, charsFrom_eq]
  simp [List.reverseAux_eq]

@[simp]
theorem chars_nil : l.chars [] = [] := rfl

@[simp]
theorem toList_text (s : String) : (l.text s).toList = l.chars s.toList :=
  String.toList_ofList

end LowerCase

namespace Text

/-- A text in lower case. -/
def lowerChars (cs : List Char) : List Char :=
  LowerCase.ofTexts.chars cs

/-- A text in lower case. -/
def lower (s : String) : String :=
  LowerCase.ofTexts.text s

/-! ### Upper case and folding -/

/-- A text in upper case. -/
def upperChars (cs : List Char) : List Char :=
  cs.flatMap (upperSupplement.imageOver upperMap)

/-- A text in upper case. -/
def upper (s : String) : String :=
  String.ofList (upperChars s.toList)

/-- The folded form of a text: two texts agree without regard to case when their folded forms are
equal. -/
def foldChars (cs : List Char) : List Char :=
  cs.flatMap (foldSupplement.imageOver foldMap)

/-- The folded form of a text. -/
def fold (s : String) : String :=
  String.ofList (foldChars s.toList)

-- A small letter whose capital is among the additions, beside one that always had one.
example : upperChars ['ɷ', 'ὓ'] = ['\ua7dd', 'Ὓ'] := by decide +kernel

-- The end of a word in both lower cases.
example : [LowerCase.ofNames, LowerCase.ofTexts].map (·.chars ['Α', '\ua7dd', 'Σ'])
    = [['α', '\ua7dd', 'σ'], ['α', 'ɷ', 'ς']] := by decide +kernel

end Text

end TitleScript
