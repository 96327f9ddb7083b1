/-!
# Records

A script is evaluated against a record, which answers one question: which values does a field
have. Field names reach it as the script writes them, so a record decides for itself which
spellings mean the same field.

## Main definitions

* `FieldValue` — the answer of a record for one field
* `Record` — a record
* `FieldValue.toList` — the values as a list
-/

namespace TitleScript

/-- What a record has for a field. -/
inductive FieldValue
  | missing
  | single (value : String)
  | multi (values : List String)
deriving DecidableEq, Repr

namespace FieldValue

/-- The values as a list, empty when there are none. -/
def toList : FieldValue → List String
  | missing => []
  | single value => [value]
  | multi values => values

/-- The answer for a list of values, with one value told apart from several. -/
def ofList : List String → FieldValue
  | [] => missing
  | [value] => single value
  | values => multi values

@[simp]
theorem toList_ofList (values : List String) : (ofList values).toList = values := by
  match values with
  | [] | [_] | _ :: _ :: _ => rfl

end FieldValue

/-- A record, as what it has for each field name. -/
abbrev Record := String → FieldValue

end TitleScript
