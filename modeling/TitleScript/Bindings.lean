import TitleScript.Name

/-!
# Bindings of a branch

A script that goes through the values of its list fields is evaluated once for every combination
of values. The bindings of a branch say which value each field has in it. Fields are found by
their name in lower case.

## Main definitions

* `Bindings` — the values of one branch
* `Bindings.get?` — the value of a field in the branch
-/

namespace TitleScript

/-- The value each list field has in a branch, under the name in lower case. -/
structure Bindings where
  entries : List (String × String)
deriving DecidableEq, Repr

namespace Bindings

/-- No field bound. -/
def empty : Bindings := ⟨[]⟩

/-- The value bound to a field, if it has one in this branch. -/
def get? (b : Bindings) (name : String) : Option String :=
  b.entries.lookup (lowerName name)

/-- Whether no field is bound. -/
def isEmpty (b : Bindings) : Bool :=
  b.entries.isEmpty

@[simp]
theorem get?_empty (name : String) : empty.get? name = none := rfl

end Bindings

end TitleScript
