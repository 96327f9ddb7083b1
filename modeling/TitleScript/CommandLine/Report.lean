import TitleScript.Json
import TitleScript.Lint
import TitleScript.Text.Replacement
import TitleScript.Text.Table

/-!
# Reports

What the commands print: documents for programs that read them, and tables and lines for people.

## Main definitions

* `Fault.document`, `Warning.document`, `Builtin.document` — parts of documents
* `checkDocument`, `evaluateDocument`, `functionsDocument` — what the commands print as JSON
* `checkSummary`, `functionsTable` — what they print otherwise
* `matchingBuiltins` — the functions whose names contain a text
-/

namespace TitleScript

/-- A fault as part of a document. -/
def Fault.document (f : Fault) : Json :=
  .object [("position", .number f.position), ("value", .string f.excerpt),
    ("kind", .string f.cause.label)]

/-- A warning as part of a document. -/
def Warning.document (w : Warning) : Json :=
  .object <| ("type", .string w.label) :: match w with
    | unknownField name p s | unknownFunction name p s =>
      [("name", .string name), ("position", .number p), ("suggestions", .strings s)]
    | argumentCount name p expected count =>
      [("name", .string name), ("position", .number p), ("expected", .string expected.describe),
        ("got", .number count)]
    | listOfSingleValue name p => [("name", .string name), ("position", .number p)]
    | alwaysShown p => [("position", .number p)]

/-- A built-in function as part of a document. -/
def Builtin.document (b : Builtin) : Json :=
  .object [("name", .string b.name), ("aliases", .strings b.aliases),
    ("arguments", .string b.arity.describe), ("strategy", .string b.strategy.label)]

namespace CommandLine

/-! ### Scripts -/

/-- The faults of a script and the warnings about it. -/
def checkDocument (s : Script) (warnings : List Warning) : Json :=
  .object [("valid", .bool s.isValid), ("errors", .array (s.faults.map Fault.document)),
    ("warnings", .array (warnings.map Warning.document))]

/-- A character in a colour of the terminal. -/
def colored (color : Nat) (mark : Char) : String :=
  "\x1b[" ++ toString color ++ "m" ++ String.singleton mark ++ "\x1b[39m"

/-- How many faults and warnings there are, behind a green, yellow or red mark. -/
def checkSummary (faults warnings : Nat) : String :=
  if 0 < faults then
    colored 31 '✗' ++ " " ++ toString faults ++ " error(s), " ++ toString warnings ++ " warning(s)"
  else if 0 < warnings then
    colored 33 '!' ++ " script is valid, " ++ toString warnings ++ " warning(s)"
  else colored 32 '✓' ++ " script is valid"

/-- The texts of the branches and the faults of the script. -/
def evaluateDocument (s : Script) (texts : List String) : Json :=
  .object [("results", .strings texts), ("errors", .array (s.faults.map Fault.document))]

/-! ### Functions -/

/-- The functions with a name that contains the text in lower case. -/
def matchingBuiltins (filter : String) : List Builtin :=
  Builtin.all.filter fun b =>
    b.names.any fun name => Text.occursIn (lowerName filter).toList name.toList

/-- The functions as a document. -/
def functionsDocument (builtins : List Builtin) : Json :=
  .array (builtins.map Builtin.document)

/-- The functions as a table. -/
def functionsTable (builtins : List Builtin) : Text.Table where
  head := ["Function", "Aliases", "Arguments", "Evaluation"]
  rows := builtins.map fun b =>
    ["$" ++ b.name, ", ".intercalate b.aliases, b.arity.describe, b.strategy.label]

end CommandLine

end TitleScript
