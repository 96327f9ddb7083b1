import TitleScript.Text.Alphanumeric
import TitleScript.Text.Blank

/-!
# Characters and names in a script

Six characters carry meaning everywhere in a script, and three more between the parentheses of a
call. All others stand for themselves. The nine, and line feeds, are kept out of field names, so
that a percent sign without a partner does not swallow the constructs after it.

## Main definitions

* `isStructural`, `isArgumentMark` — the characters with a meaning
* `isFieldChar`, `isNameChar` — what field names and function names are made of
* `isFieldName`, `isReferenceable` — which texts are names of fields
-/

namespace TitleScript

/-- Whether the character carries meaning anywhere in a script. -/
def isStructural (c : Char) : Bool :=
  c == '%' || c == '$' || c == '[' || c == ']' || c == '"' || c == '\\'

/-- Whether the character carries meaning inside the parentheses of a call. -/
def isArgumentMark (c : Char) : Bool :=
  c == ',' || c == '(' || c == ')'

/-- Whether the character can stand between the percent signs of a field. -/
def isFieldChar (c : Char) : Bool :=
  c != '\n' && !isStructural c && !isArgumentMark c

/-- Whether the character can stand in the name of a function. -/
def isNameChar (c : Char) : Bool :=
  Text.isAlphanumeric c || c == '_'

/-- Whether the text is the name of a field: not blank, and free of the angle brackets that mark
a list. -/
def isFieldName (name : List Char) : Bool :=
  !name.all Text.isBlank && !name.contains '<' && !name.contains '>'

/-- Whether a script can refer to a field of this name. -/
def isReferenceable (name : String) : Bool :=
  isFieldName name.toList && name.toList.all isFieldChar

/-- Whether a script can call a function of this name. -/
def isCallable (name : String) : Bool :=
  !name.toList.isEmpty && name.toList.all isNameChar

end TitleScript
