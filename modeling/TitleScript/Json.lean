import TitleScript.Json.Quoted

/-!
# JSON documents

The documents that reports are written as: objects whose fields keep the order in which they are
given, one field or element to a line, two blanks for every level.

## Main definitions

* `Json` — a document
* `Json.pretty` — its text
-/

namespace TitleScript

/-- A JSON document. -/
inductive Json
  | bool (b : Bool)
  | number (n : Nat)
  | string (s : String)
  | array (elements : List Json)
  | object (fields : List (String × Json))

namespace Json

/-- An array of strings. -/
def strings (l : List String) : Json := array (l.map string)

/-- A line end and the blanks of a level. -/
def newLine (level : Nat) : String :=
  "\n" ++ String.ofList (List.replicate (2 * level) ' ')

mutual

/-- The text of a document that stands at the given level. -/
def prettyAt (level : Nat) : Json → String
  | bool b => if b then "true" else "false"
  | number n => toString n
  | string s => quote s
  | array [] => "[]"
  | array (e :: es) =>
    "[" ++ newLine (level + 1) ++ prettyAt (level + 1) e ++ prettyElements (level + 1) es
      ++ newLine level ++ "]"
  | object [] => "\x7b\x7d"
  | object ((key, value) :: fields) =>
    "\x7b" ++ newLine (level + 1) ++ quote key ++ ": " ++ prettyAt (level + 1) value
      ++ prettyFields (level + 1) fields ++ newLine level ++ "\x7d"

/-- The text of the elements behind the first one. -/
def prettyElements (level : Nat) : List Json → String
  | [] => ""
  | e :: es => "," ++ newLine level ++ prettyAt level e ++ prettyElements level es

/-- The text of the fields behind the first one. -/
def prettyFields (level : Nat) : List (String × Json) → String
  | [] => ""
  | (key, value) :: fields =>
    "," ++ newLine level ++ quote key ++ ": " ++ prettyAt level value
      ++ prettyFields level fields

end

/-- The text of a document. -/
def pretty (j : Json) : String :=
  prettyAt 0 j

end Json

end TitleScript
