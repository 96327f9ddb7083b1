import TitleScript.Function.Context
import TitleScript.Text.Cluster

/-!
# Functions that choose

These functions pass on one of their arguments, or say whether arguments are true. Their outcome
has the flags of what they pass on and of nothing else, so a condition on a field without a value
does not make the result count as empty.

## Main definitions

* `Control.choose`, `orElse`, `firstOf`, `select` — passing on an argument by truth or position
* `Control.chooseBy`, `equalNumbers`, `greaterNumber`, `longerThan` — passing on by comparison
* `Control.conjunction`, `disjunction`, `negation` — truth
-/

namespace TitleScript

namespace Control

/-- The second argument if the first is true, and otherwise the third. -/
def choose (args : List Outcome) : Outcome :=
  if (argument args 0).truthy then argument args 1 else argument args 2

/-- The first argument if it is true, and otherwise the second. -/
def orElse (args : List Outcome) : Outcome :=
  if (argument args 0).truthy then argument args 0 else argument args 1

/-- The first argument that is true, and the last one if none before it is. -/
def firstOf (args : List Outcome) : Outcome :=
  (args.dropLast.find? Outcome.truthy).getD (args.getLastD .neutral)

/-- The third argument if the first two pass a test, and otherwise the fourth. -/
def chooseBy (test : List Outcome → Bool) (args : List Outcome) : Outcome :=
  if test args then argument args 2 else argument args 3

/-- The first two arguments are the same number. -/
def equalNumbers (args : List Outcome) : Bool :=
  argumentNumber args 0 == argumentNumber args 1

/-- The first argument is a greater number than the second. -/
def greaterNumber (args : List Outcome) : Bool :=
  argumentNumber args 1 < argumentNumber args 0

/-- The first argument has more characters than the second argument says. -/
def longerThan (args : List Outcome) : Bool :=
  argumentNumber args 1 < Text.length (argumentText args 0)

/-- The argument whose number, counted from one behind the first, the first argument gives. -/
def select (args : List Outcome) : Outcome :=
  if 1 ≤ argumentNumber args 0 ∧ argumentNumber args 0 < args.length then
    argument args (argumentNumber args 0).toNat
  else .neutral

/-- Whether all arguments are true. -/
def conjunction (args : List Outcome) : Outcome :=
  .ofBool (args.all Outcome.truthy)

/-- Whether some argument is true. -/
def disjunction (args : List Outcome) : Outcome :=
  .ofBool (args.any Outcome.truthy)

/-- Whether the argument is not true. -/
def negation (args : List Outcome) : Outcome :=
  .ofBool !(argument args 0).truthy

end Control

end TitleScript
