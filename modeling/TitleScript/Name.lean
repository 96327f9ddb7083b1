import TitleScript.Text.Blank
import TitleScript.Text.Case.Mapping

/-!
# Comparing names

Names of fields and functions are compared without regard to case and to blanks at their ends. The
form they share is the name in lower case without those blanks.

## Main definitions

* `lowerName` — a name in lower case
* `normalizeName` — the form under which a name is stored and looked up
-/

namespace TitleScript

/-- A name in lower case, blanks kept. -/
def lowerName (name : String) : String :=
  LowerCase.ofNames.text name

/-- The form under which a name is stored and looked up. -/
def normalizeName (name : String) : String :=
  lowerName (Text.trim name)

example : normalizeName " Album ARTIST\t" = "album artist" := by decide +kernel

end TitleScript
