import TitleScript.Text.ScalarSet

/-!
# Blank characters

White space at the ends of a name or of a number is ignored, and words are what white space
separates. The class is the Unicode property White_Space: the ASCII blanks and controls, the
no-break spaces, the typographic spaces, the line and paragraph separators and the ideographic
space. Zero-width characters are not in it.

## Main definitions

* `Text.isBlank` — the class
* `Text.trimChars`, `Text.trim` — a text without the blanks at its ends
* `Text.words` — the maximal runs of other characters
-/

namespace TitleScript

namespace Text

/-- The characters with the property White_Space. -/
@[irreducible]
def blanks : ScalarSet where
  cuts := #[
    0x9, 0xE, 0x20, 0x21, 0x85, 0x86, 0xA0, 0xA1, 0x1680, 0x1681, 0x2000, 0x200B, 0x2028, 0x202A,
    0x202F, 0x2030, 0x205F, 0x2060, 0x3000, 0x3001]

/-- Whether the character is white space. -/
def isBlank (c : Char) : Bool :=
  blanks.contains c

-- Everything core counts as white space is blank.
example : [' ', '\t', '\r', '\n'].all isBlank = true := by decide +kernel

/-- The characters left when blanks are dropped from both ends. -/
def trimChars (cs : List Char) : List Char :=
  ((cs.dropWhile isBlank).reverse.dropWhile isBlank).reverse

/-- The text left when blanks are dropped from both ends. -/
def trim (s : String) : String :=
  String.ofList (trimChars s.toList)

@[simp]
theorem toList_trim (s : String) : (trim s).toList = trimChars s.toList :=
  String.toList_ofList

/-- The maximal runs of characters that are not blank. -/
def words (cs : List Char) : List (List Char) :=
  (cs.splitBy fun a b => isBlank a == isBlank b).filter (·.all (!isBlank ·))

end Text

end TitleScript
